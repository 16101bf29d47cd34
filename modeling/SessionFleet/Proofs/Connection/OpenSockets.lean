import SessionFleet.Proofs.Connection.CleanEnds
/- Whether a shard is shown as connected.  It is from the opening of a socket until the socket is left,
   and a connection that crashes leaves its socket without saying so.  What it leaves behind is shown
   until a later connection of the shard opens a socket of its own. -/
namespace SessionFleet

theorem sockets_effects (s : Circumstances) (effects : List Effect) :
    sockets (effects.flatMap (Effect.deeds s)) = [] := by
  apply List.filterMap_eq_nil_iff.mpr
  intro d member
  obtain ⟨e, _, done⟩ := List.mem_flatMap.mp member
  cases e with
  | deliver event =>
    rcases List.mem_cons.mp done with handed | dealt
    · rw [handed]
      rfl
    · rw [List.mem_singleton.mp dealt]
      split <;> rfl
  | identify | resume | heartbeat | latency | disrupted =>
    rw [List.mem_singleton.mp done]
    rfl
  | reconnect => simp [Effect.deeds] at done

namespace Connection

variable {s : Circumstances} {c : Connection} {i : Stimulus}

/-- Whether the last socket was opened and not left. -/
def showsOpen (c : Connection) : Bool := c.stage = .online || c.stage = .stopped .crashed

theorem showsOpen_iff : c.showsOpen = true ↔ c.stage = .online ∨ c.stage = .stopped .crashed := by
  simp [showsOpen]

theorem Wanders.showsOpen {a : Advance} (wanders : Wanders c a) : a.connection.showsOpen = false := by
  simp [Connection.showsOpen, wanders.offline, wanders.lives]

theorem sockets_news (c : Connection) (p : Phase) : sockets (c.news p) = [] := by
  unfold news
  split <;> rfl

theorem sockets_farewell (s : Circumstances) (code : Option CloseCode) :
    sockets (farewell s code) = [] := by
  apply List.filterMap_eq_nil_iff.mpr
  intro d member
  obtain ⟨f, write⟩ := farewell_writes s code d member
  rw [write]
  rfl

/-- A step of the session opens and leaves no socket. -/
theorem converse_sockets (s : Circumstances) (j : SessionInput) (stage : c.stage = .online) :
    sockets (c.converse s j).deeds = [] ∧ (c.converse s j).connection.showsOpen = true := by
  have acted := sockets_effects s (c.session.step true s.moment j).effects
  obtain ⟨outbox, crashed | survived⟩ := converse_cases s j stage
  · rw [crashed]
    exact ⟨acted, by simp [showsOpen]⟩
  · rw [survived]
    exact ⟨by rw [sockets_append, acted, sockets_news, List.nil_append], by simp [showsOpen, stage]⟩

/-- A step opens or leaves one socket at most, and it does just if that changes what is shown. -/
theorem Reaction.sockets_eq {a : Advance} (reaction : Reaction s c i a) :
    sockets a.deeds =
      if a.connection.showsOpen = c.showsOpen then [] else [a.connection.showsOpen] := by
  have unseen {next : Connection} {deeds : List Deed} (same : next.showsOpen = c.showsOpen)
      (hidden : ∀ d ∈ deeds, d.shows = false) :
      sockets deeds = if next.showsOpen = c.showsOpen then [] else [next.showsOpen] := by
    rw [if_pos same]
    exact sockets_of_unseen hidden
  have onward {a : Advance} (offline : c.showsOpen = false) (wanders : Wanders c a) :
      sockets a.deeds =
        if a.connection.showsOpen = c.showsOpen then [] else [a.connection.showsOpen] :=
    unseen (wanders.showsOpen.trans offline.symm) wanders.unseen
  have speaks (lead : List Deed) (j : SessionInput) (stage : c.stage = .online)
      (hidden : ∀ d ∈ lead, d.shows = false) :
      sockets (lead ++ (c.converse s j).deeds) =
        if (c.converse s j).connection.showsOpen = c.showsOpen then []
        else [(c.converse s j).connection.showsOpen] := by
    obtain ⟨silent, shown⟩ := converse_sockets s j stage
    rw [if_pos (shown.trans (showsOpen_iff.mpr (Or.inl stage)).symm), sockets_append,
      sockets_of_unseen hidden, silent]
    rfl
  cases reaction with
  | ignores => exact unseen rfl (by simp)
  | counts | pongs | flushes | sends => exact unseen rfl (by simp [Deed.shows])
  | hears stage => exact speaks [.received] (.frame _) stage (by simp [Deed.shows])
  | ticks g stage => exact speaks [] (.tick g) stage (by simp)
  | parts why code outbox stage =>
    obtain ⟨rest, parted, wanders⟩ := parts_closed s why code outbox stage
    have left : sockets (.closed :: rest.deeds) = [false] := by
      rw [← List.singleton_append, sockets_append, sockets_of_unseen wanders.unseen]
      rfl
    have open_ : c.showsOpen = true := showsOpen_iff.mpr (Or.inl stage)
    rw [parted, wanders.showsOpen, open_, sockets_append, sockets_append, sockets_farewell,
      sockets_news, left]
    rfl
  | enters stage =>
    obtain ⟨silent, shown⟩ :=
      converse_sockets (c := { c with stage := .online, outbox := [] }) s .opened rfl
    have dark : c.showsOpen = false := by simp [showsOpen, stage]
    simp only [enter, Advance.also, shown, dark]
    rw [sockets_append, silent]
    rfl
  | fails d e stage => exact onward (by simp [showsOpen, stage]) (fail_wanders s e c)
  | retries stage => exact onward (by simp [showsOpen, stage]) (closeBreaker_way s c).wanders
  | resumes stage => exact onward (by simp [showsOpen, stage]) (approach_way c).wanders
  | dials stage => exact onward (by simp [showsOpen, stage]) (dial_wanders c)
  | obeys stage =>
    rcases stage with stage | stage | stage <;>
      simp [showsOpen, stage, sockets, Deed.socket?]

/-- The last socket that a step opens or leaves is what is shown after it; if there is none, that does
    not change. -/
theorem Reaction.shows {a : Advance} (reaction : Reaction s c i a) :
    (sockets a.deeds).getLastD c.showsOpen = a.connection.showsOpen := by
  rw [reaction.sockets_eq]
  split
  · rename_i same
    exact same.symm
  · rfl

theorem run_sockets (c : Connection) (history : List (Circumstances × Stimulus)) :
    (sockets (c.run history).deeds).getLastD c.showsOpen = (c.run history).connection.showsOpen := by
  induction history generalizing c with
  | nil => rfl
  | cons e rest ih =>
    have first := (step_reaction e.1 c e.2).shows
    simp only [run, Advance.also]
    rw [sockets_append, getLastD_append, first]
    exact ih (c.step e.1 e.2).connection

/-- The first thing to be shown on a run is a change. -/
theorem run_sockets_head? (c : Connection) (history : List (Circumstances × Stimulus)) :
    ∀ b ∈ (sockets (c.run history).deeds).head?, b = !c.showsOpen := by
  induction history generalizing c with
  | nil =>
    intro b member
    cases member
  | cons e rest ih =>
    intro b member
    simp only [run, Advance.also] at member
    rw [sockets_append, (step_reaction e.1 c e.2).sockets_eq] at member
    split at member
    · rename_i same
      rw [List.nil_append] at member
      rw [← same]
      exact ih _ b member
    · rename_i changed
      have first : (c.step e.1 e.2).connection.showsOpen = b := Option.some.inj member
      rw [← first]
      exact Bool.eq_not_of_ne changed

theorem run_sockets_nil_iff (dark : c.showsOpen = false) (history : List (Circumstances × Stimulus)) :
    sockets (c.run history).deeds = [] ↔ ∀ n, .opened n ∉ (c.run history).deeds := by
  constructor
  · intro none n opened
    have hidden := List.filterMap_eq_nil_iff.mp none _ opened
    cases hidden
  · intro unopened
    cases shown : sockets (c.run history).deeds with
    | nil => rfl
    | cons b rest =>
      have first : b = !c.showsOpen := run_sockets_head? c history b (by rw [shown]; rfl)
      rw [dark] at first
      have member : true ∈ sockets (c.run history).deeds := by
        rw [shown, first]
        exact List.mem_cons_self
      obtain ⟨d, there, opens⟩ := List.mem_filterMap.mp member
      cases d with
      | opened n => exact absurd there (unopened n)
      | _ => cases opens

/- The connections that a shard had before. -/

/-- A connection of a shard that has stopped, with all that ever reached it. -/
structure Forerunner (shard : Nat) where
  settings : GatewaySettings
  total : Nat
  launched : Instant
  history : List (Circumstances × Stimulus)
  stopped : ((start settings ⟨shard, total⟩).connection.run history).connection.isStopped = true

namespace Forerunner

variable {shard : Nat}

def run (t : Forerunner shard) : Advance := (start t.settings ⟨shard, t.total⟩).connection.run t.history

def deeds (t : Forerunner shard) : List (Instant × Deed) :=
  lifetime t.settings ⟨shard, t.total⟩ t.launched t.history

def Crashed (t : Forerunner shard) : Prop := t.run.connection.stage = .stopped .crashed

def Unopened (t : Forerunner shard) : Prop := ∀ n, .opened n ∉ t.run.deeds

/-- Of the connections that opened a socket the last one crashed on it. -/
def LeftOpen (past : List (Forerunner shard)) : Prop :=
  ∃ before t later, past = before ++ t :: later ∧ t.Crashed ∧ ∀ u ∈ later, u.Unopened

theorem leftOpen_concat (past : List (Forerunner shard)) (t : Forerunner shard) :
    LeftOpen (past ++ [t]) ↔ t.Crashed ∨ t.Unopened ∧ LeftOpen past := by
  constructor
  · rintro ⟨before, u, later, split, crashed, unopened⟩
    rcases List.eq_nil_or_concat later with none | ⟨others, last, same⟩
    · rw [none] at split
      have own : [t] = [u] := List.append_inj_right' split rfl
      rw [List.singleton_inj.mp own]
      exact Or.inl crashed
    · rw [same, List.concat_eq_append] at split unopened
      rw [← List.cons_append, ← List.append_assoc] at split
      have own : [t] = [last] := List.append_inj_right' split rfl
      have rest : past = before ++ u :: others := List.append_inj_left' split rfl
      rw [List.singleton_inj.mp own]
      exact Or.inr ⟨unopened last (by simp), before, u, others, rest, crashed,
        fun w member => unopened w (List.mem_append_left _ member)⟩
  · rintro (crashed | ⟨unopened, before, u, later, split, crashed, others⟩)
    · exact ⟨past, t, [], rfl, crashed, by simp⟩
    · refine ⟨before, u, later ++ [t], by simp [split], crashed, ?_⟩
      intro w member
      rcases List.mem_append.mp member with earlier | last
      · exact others w earlier
      · rw [List.mem_singleton.mp last]
        exact unopened

theorem sockets_deeds (t : Forerunner shard) : sockets (t.deeds.map Prod.snd) = sockets t.run.deeds := by
  unfold deeds
  rw [lifetime_deeds, sockets_append]
  rfl

/-- A connection that has stopped shows an open socket if it crashed, and what was shown before if it
    opened none. -/
theorem shows_iff (t : Forerunner shard) (before : Bool) :
    (sockets (t.deeds.map Prod.snd)).getLastD before = true ↔
      t.Crashed ∨ t.Unopened ∧ before = true := by
  have dark : (start t.settings ⟨shard, t.total⟩).connection.showsOpen = false := rfl
  have none : sockets t.run.deeds = [] ↔ t.Unopened := run_sockets_nil_iff dark t.history
  have own : (sockets t.run.deeds).getLastD false = true ↔ t.Crashed := by
    have shown : (sockets t.run.deeds).getLastD false = t.run.connection.showsOpen :=
      run_sockets (start t.settings ⟨shard, t.total⟩).connection t.history
    rw [shown, showsOpen_iff]
    refine or_iff_right ?_
    intro online
    have stopped : t.run.connection.isStopped = true := t.stopped
    rw [isStopped, online] at stopped
    cases stopped
  rw [sockets_deeds]
  cases shown : sockets t.run.deeds with
  | nil =>
    rw [shown] at none own
    have whole : ¬ t.Crashed := fun crashed => Bool.false_ne_true (own.mpr crashed)
    simp [whole, none.mp rfl]
  | cons b rest =>
    rw [shown, List.getLastD_cons] at own
    rw [shown] at none
    rw [List.getLastD_cons, own]
    have opened : ¬ t.Unopened := fun unopened => List.cons_ne_nil b rest (none.mpr unopened)
    simp [opened]

/-- After all of them a socket is shown that the last one to open any has left open. -/
theorem past_shows_iff (past : List (Forerunner shard)) :
    (({ shard } : Gauge).recordAll (past.flatMap deeds)).isConnected = true ↔ LeftOpen past := by
  induction past using List.reverseRecOn with
  | nil => simp [Gauge.recordAll, LeftOpen]
  | append_singleton past t ih =>
    rw [List.flatMap_append, List.flatMap_singleton, Gauge.recordAll_append,
      Gauge.recordAll_connected, shows_iff, ih, leftOpen_concat]

end Forerunner
end Connection
end SessionFleet
