import SessionFleet.Proofs.Json.ShapeReads
import SessionFleet.Wire.Outbound
/- A frame that is written and read again is the same frame.

   A payload that is `null` comes back as none.  A double does not come back in general, so the
   payloads here hold whole numbers only.  Every other bound is one that each frame meets that was
   read: the payload's brackets fit the reader's limit, its names ascend, its numbers and the
   sequence number fit 64 bits. -/
namespace SessionFleet

namespace Packet

/-- What the fields of a frame have to hold for the frame to come back. -/
structure Portable (p : Packet) : Prop where
  sequence : ∀ s ∈ p.s, s < 2 ^ 64
  payload : ∀ d ∈ p.d, d.Portable (nestingLimit - 1)

/-- The frame with a payload that is `null` taken for none. -/
def folded (p : Packet) : Packet := { p with d := p.d.filter fun d => d ≠ .null }

theorem readOpcode_of_spells {r : Reading} {op : Opcode} (spelled : r.Spells (.ofNat op.code)) :
    readOpcode r = .ok op := by
  have small : op.code < 2 ^ 8 := by cases op <;> decide
  rw [readOpcode, Reading.asWhole_of_spells spelled small]
  simp only [bind, Except.bind, Opcode.ofCode?_code]

theorem readPayload_of_spells {r : Reading} {d : Option Json} (spelled : r.Spells (d.getD .null))
    (portable : ∀ v ∈ d, v.Portable (nestingLimit - 1)) :
    readPayload r = .ok (d.filter fun v => v ≠ .null) := by
  cases d with
  | none => exact Reading.asOptional_of_null spelled _
  | some v =>
    have spelled : r.Spells v := spelled
    by_cases null : v = .null
    · subst null
      exact Reading.asOptional_of_null spelled _
    · have kept := spelled (nestingLimit - 1) (portable v rfl).shallow
      rw [readPayload, Reading.asOptional_of_some spelled null, kept]
      simp [Fault.ofText, Except.map, Option.filter, null]

theorem readSequence_of_spells {r : Reading} {s : Nat} (spelled : r.Spells (.ofNat s))
    (small : s < 2 ^ 64) : readSequence r = .ok (some s) := by
  have present : Json.ofNat s ≠ .null := by simp [Json.ofNat]
  rw [readSequence, Reading.asOptional_of_some spelled present,
    Reading.asWhole_of_spells spelled small]
  rfl

theorem readName_of_spells {r : Reading} {t : String} (spelled : r.Spells (.text t)) :
    readName r = .ok (some t) := by
  have present : Json.text t ≠ .null := by simp
  rw [readName, Reading.asOptional_of_some spelled present, Reading.asText_of_spells spelled]
  rfl

theorem fold_cons {slots next : Slots} {m : QuotedText × Reading} {name : String} {v : Json}
    (spelled : Reading.SpellsMember m (name, v)) (stored : slots.put name m.2 = .ok next)
    (rest : List (QuotedText × Reading)) :
    Reading.foldMembers Slots.put slots (m :: rest) = Reading.foldMembers Slots.put next rest := by
  rw [Reading.foldMembers, spelled.1]
  simp only [Fault.ofText, bind, Except.bind, stored]

theorem put_op {slots : Slots} {r : Reading} {op : Opcode} (unset : slots.op = none)
    (read : readOpcode r = .ok op) : slots.put "op" r = .ok { slots with op := some op } := by
  simp [Slots.put, Reading.once, unset, read, Except.map, bind, Except.bind, pure, Except.pure]

theorem put_d {slots : Slots} {r : Reading} {d : Option Json} (unset : slots.d = none)
    (read : readPayload r = .ok d) : slots.put "d" r = .ok { slots with d := some d } := by
  simp [Slots.put, Reading.once, unset, read, Except.map, bind, Except.bind, pure, Except.pure]

theorem put_s {slots : Slots} {r : Reading} {s : Option Nat} (unset : slots.s = none)
    (read : readSequence r = .ok s) : slots.put "s" r = .ok { slots with s := some s } := by
  simp [Slots.put, Reading.once, unset, read, Except.map, bind, Except.bind, pure, Except.pure]

theorem put_t {slots : Slots} {r : Reading} {t : Option String} (unset : slots.t = none)
    (read : readName r = .ok t) : slots.put "t" r = .ok { slots with t := some t } := by
  simp [Slots.put, Reading.once, unset, read, Except.map, bind, Except.bind, pure, Except.pure]

/-- The fields that are written only if they are there. -/
theorem fold_optional {op : Option Opcode} {d : Option (Option Json)} {s : Option Nat}
    {t : Option String} {rs : List (QuotedText × Reading)} (small : ∀ n ∈ s, n < 2 ^ 64)
    (spelled : List.Forall₂ Reading.SpellsMember rs
      ((s.map fun s => ("s", Json.ofNat s)).toList ++ (t.map fun t => ("t", Json.text t)).toList)) :
    Reading.foldMembers Slots.put ⟨op, d, none, none⟩ rs = .ok ⟨op, d, s.map some, t.map some⟩ := by
  cases s with
  | none =>
    cases t with
    | none =>
      cases spelled
      rfl
    | some t =>
      obtain ⟨⟩ | ⟨name, ⟨⟩⟩ := spelled
      rw [fold_cons name (put_t rfl (readName_of_spells name.2))]
      rfl
  | some n =>
    have small : n < 2 ^ 64 := small n rfl
    cases t with
    | none =>
      obtain ⟨⟩ | ⟨sequence, ⟨⟩⟩ := spelled
      rw [fold_cons sequence (put_s rfl (readSequence_of_spells sequence.2 small))]
      rfl
    | some t =>
      obtain ⟨⟩ | ⟨sequence, ⟨⟩ | ⟨name, ⟨⟩⟩⟩ := spelled
      rw [fold_cons sequence (put_s rfl (readSequence_of_spells sequence.2 small)),
        fold_cons name (put_t rfl (readName_of_spells name.2))]
      rfl

theorem read_of_members {p : Packet} (portable : p.Portable) {rs : List (QuotedText × Reading)}
    (spelled : List.Forall₂ Reading.SpellsMember rs p.members) :
    read (.object rs none) = .ok p.folded := by
  -- two members are always there, the other two are looked at together
  rw [members, List.append_assoc] at spelled
  obtain ⟨⟩ | ⟨op, ⟨⟩ | ⟨d, optional⟩⟩ := spelled
  rw [read, fold_cons op (put_op rfl (readOpcode_of_spells op.2)),
    fold_cons d (put_d rfl (readPayload_of_spells d.2 portable.payload)),
    fold_optional portable.sequence optional]
  simp only [bind, Except.bind, Fault.raise, Slots.packet, folded]
  cases p.s <;> cases p.t <;> rfl

theorem portable_members {p : Packet} (portable : p.Portable) :
    ∀ m ∈ p.members, m.2.Portable (nestingLimit - 1) := by
  intro m member
  simp only [members, List.mem_append, List.mem_cons, List.not_mem_nil, or_false,
    Option.mem_toList, Option.map_eq_some_iff] at member
  rcases member with ((op | d) | ⟨s, present, sequence⟩) | ⟨t, _, name⟩
  · subst op
    exact Json.portable_ofNat (by cases p.op <;> decide)
  · subst d
    cases present : p.d with
    | none => exact Json.portable_null
    | some v => exact portable.payload v present
  · subst sequence
    exact Json.portable_ofNat (portable.sequence s present)
  · subst name
    exact Json.portable_text t

theorem ofText_wire {p : Packet} (portable : p.Portable) : ofText p.wire = .ok p.folded := by
  have each := portable_members portable
  obtain ⟨rs, document, spelled⟩ := Json.document_of_object
    (fun m member => (each m member).stored) (fun m member => (each m member).integral)
  rw [ofText, Document.decode, wire, document]
  simp only [read_of_members portable spelled]
  rfl

/-- A frame and the one that comes back are written alike. -/
theorem wire_folded (p : Packet) : p.folded.wire = p.wire := by
  have same : p.folded.d.getD .null = p.d.getD .null := by
    cases given : p.d with
    | none => simp [folded, given]
    | some v => by_cases null : v = .null <;> simp [folded, given, null, Option.filter]
  simp only [wire, members, same]
  rfl

/- What is known of a frame that was read. -/

def KeptSequence (s : Option Nat) : Prop := ∀ n ∈ s, n < 2 ^ 64

def KeptPayload (d : Option Json) : Prop :=
  ∀ v ∈ d, v ≠ .null ∧ v.Stored ∧ v.depth ≤ nestingLimit - 1

theorem readSequence_kept {r : Reading} {s : Option Nat} (found : readSequence r = .ok s) :
    KeptSequence s := by
  intro n present
  rw [Option.mem_def.mp present] at found
  exact Reading.asWhole_lt (Reading.asOptional_present found).2

theorem readPayload_kept {r : Reading} {d : Option Json} (found : readPayload r = .ok d) :
    KeptPayload d := by
  intro v present
  rw [Option.mem_def.mp present] at found
  obtain ⟨notNull, taken⟩ := Reading.asOptional_present found
  have kept : r.keep (nestingLimit - 1) = .ok v := by
    cases outcome : r.keep (nestingLimit - 1) with
    | error f => rw [outcome] at taken; cases taken
    | ok w => rw [outcome] at taken; cases taken; rfl
  refine ⟨?_, Reading.keep_stored kept⟩
  intro null
  subst null
  exact notNull (Reading.null_of_found (Reading.found_of_keep kept))

structure Slots.Kept (slots : Slots) : Prop where
  sequence : ∀ s ∈ slots.s, KeptSequence s
  payload : ∀ d ∈ slots.d, KeptPayload d

theorem once_ok {α : Type} {name : String} {slot filled : Option α} {found : Except Fault α}
    (put : Reading.once name slot found = .ok filled) : ∃ a, found = .ok a ∧ filled = some a := by
  unfold Reading.once at put
  split at put
  · cases put
  · obtain ⟨a, taken, same⟩ := ok_of_map put
    exact ⟨a, taken, same.symm⟩

theorem put_kept {slots next : Slots} {name : String} {r : Reading} (kept : slots.Kept)
    (put : slots.put name r = .ok next) : next.Kept := by
  unfold Slots.put at put
  split at put
  · obtain ⟨op, _, put⟩ := ok_of_bind put
    cases put
    exact ⟨kept.sequence, kept.payload⟩
  split at put
  · obtain ⟨slot, once, put⟩ := ok_of_bind put
    obtain ⟨d, found, filled⟩ := once_ok once
    cases put
    refine ⟨kept.sequence, fun d' present => ?_⟩
    obtain rfl : d = d' := Option.some.inj (filled.symm.trans present)
    exact readPayload_kept found
  split at put
  · obtain ⟨slot, once, put⟩ := ok_of_bind put
    obtain ⟨s, found, filled⟩ := once_ok once
    cases put
    refine ⟨fun s' present => ?_, kept.payload⟩
    obtain rfl : s = s' := Option.some.inj (filled.symm.trans present)
    exact readSequence_kept found
  split at put
  · obtain ⟨t, _, put⟩ := ok_of_bind put
    cases put
    exact ⟨kept.sequence, kept.payload⟩
  · unfold Reading.skipped at put
    split at put
    · cases put
      exact kept
    · cases put

theorem fold_kept {members : List (QuotedText × Reading)} {slots filled : Slots}
    (kept : slots.Kept) (folded : Reading.foldMembers Slots.put slots members = .ok filled) :
    filled.Kept := by
  induction members generalizing slots with
  | nil =>
    cases folded
    exact kept
  | cons m rest ih =>
    obtain ⟨q, r⟩ := m
    obtain ⟨name, _, folded⟩ := ok_of_bind folded
    obtain ⟨next, put, folded⟩ := ok_of_bind folded
    exact ih (put_kept kept put) folded

theorem optionalAt_kept {α : Type} {P : α → Prop} {absent a : α}
    {take : Reading → Except Fault α} {items : List Reading} {fault : Option TextFault} {i : Nat}
    (default : P absent) (each : ∀ {r b}, take r = .ok b → P b)
    (found : Reading.optionalAt absent take items fault i = .ok a) : P a := by
  unfold Reading.optionalAt at found
  split at found
  · exact each found
  · obtain ⟨_, _, found⟩ := ok_of_bind found
    cases found
    exact default

theorem kept_of_read {r : Reading} {p : Packet} (found : read r = .ok p) :
    KeptSequence p.s ∧ KeptPayload p.d := by
  have noSequence : KeptSequence none := by simp [KeptSequence]
  have noPayload : KeptPayload none := by simp [KeptPayload]
  -- what is neither an object nor a list is refused, whatever stands there
  have other {r : Reading} {p : Packet} : r.wrong (.record "GatewayPacket") ≠ .ok p := by
    intro succeeds
    obtain ⟨_, _, impossible⟩ := ok_of_bind succeeds
    cases impossible
  cases r with
  | object members fault =>
    obtain ⟨slots, folded, found⟩ := ok_of_bind found
    obtain ⟨_, _, found⟩ := ok_of_bind found
    have kept : slots.Kept := fold_kept ⟨by simp, by simp⟩ folded
    unfold Slots.packet at found
    split at found
    · cases found
    cases found
    refine ⟨?_, ?_⟩
    · cases given : slots.s with
      | none => exact noSequence
      | some s => exact kept.sequence s given
    · cases given : slots.d with
      | none => exact noPayload
      | some d => exact kept.payload d given
  | list items fault =>
    obtain ⟨op, _, found⟩ := ok_of_bind found
    obtain ⟨d, payload, found⟩ := ok_of_bind found
    obtain ⟨s, sequence, found⟩ := ok_of_bind found
    obtain ⟨t, _, found⟩ := ok_of_bind found
    obtain ⟨_, _, found⟩ := ok_of_bind found
    cases found
    exact ⟨optionalAt_kept noSequence readSequence_kept sequence,
      optionalAt_kept noPayload readPayload_kept payload⟩
  | _ => exact absurd found other

/-- A frame that was read and holds no doubles comes back, and is its own folded form. -/
theorem portable_of_ofText {text : String} {p : Packet} (found : ofText text = .ok p)
    (integral : ∀ d ∈ p.d, d.Integral) : p.Portable ∧ p.folded = p := by
  obtain ⟨q, taken, complete⟩ := ok_of_bind found
  have same : q = p := by
    split at complete
    · exact Except.ok.inj complete
    · cases complete
  subst same
  obtain ⟨sequence, payload⟩ := kept_of_read taken
  have unfolded : (q.d.filter fun d => d ≠ .null) = q.d := by
    cases given : q.d with
    | none => rfl
    | some d => simp [Option.filter, (payload d given).1]
  refine ⟨⟨sequence, fun d present => ?_⟩, by rw [folded, unfolded]⟩
  obtain ⟨_, stored, shallow⟩ := payload d present
  exact ⟨stored, integral d present, shallow⟩

/- The frames that a shard writes by itself. -/

theorem portable_heartbeat {last : Option Nat} (small : ∀ n ∈ last, n < 2 ^ 64) :
    (heartbeat last).Portable := by
  refine ⟨by simp [heartbeat, outbound], fun d present => ?_⟩
  obtain rfl : Json.ofOption Json.ofNat last = d := Option.some.inj present
  cases last with
  | none => exact Json.portable_null
  | some n => exact Json.portable_ofNat (small n rfl)

theorem folded_heartbeat (last : Option Nat) :
    (heartbeat last).folded = outbound .heartbeat (last.map Json.ofNat) := by
  cases last <;> rfl

theorem portable_identify (token : String) {intents : Nat} {shard : Shard}
    (intentsFit : intents < 2 ^ 64) (idFits : shard.id < 2 ^ 64) (totalFits : shard.total < 2 ^ 64) :
    (identify token intents shard).Portable := by
  refine ⟨by simp [identify, outbound], fun d present => ?_⟩
  obtain rfl := Option.some.inj present
  have properties : (Json.ofMembers [("os", .text platform), ("browser", .text libraryName),
      ("device", .text libraryName)]).Portable 1 := by
    apply Json.portable_ofMembers
    simp
  have place : (Json.list [.ofNat shard.id, .ofNat shard.total]).Portable 1 := by
    apply Json.portable_list
    simp [Json.portable_ofNat idFits, Json.portable_ofNat totalFits]
  have threshold : largeThreshold < 2 ^ 64 := by decide
  refine Json.Portable.mono (Json.portable_ofMembers ?_) (by decide : 2 ≤ nestingLimit - 1)
  simp [Json.portable_ofNat intentsFit, properties, place, Json.portable_ofNat threshold]

theorem portable_resume (token session : String) {last : Option Nat}
    (small : ∀ n ∈ last, n < 2 ^ 64) : (resume token session last).Portable := by
  refine ⟨by simp [resume, outbound], fun d present => ?_⟩
  obtain rfl := Option.some.inj present
  have sequence : last.getD 0 < 2 ^ 64 := by
    cases last with
    | none => decide
    | some n => exact small n rfl
  refine Json.Portable.mono (Json.portable_ofMembers ?_) (by decide : 1 ≤ nestingLimit - 1)
  simp [Json.portable_ofNat sequence]

/-- Every frame without doubles that fits comes back, but for a payload of `null`, and so does every
    frame that was read, with the same text.  Heartbeats, identifications and resumptions are among
    them whatever they carry. -/
theorem read_of_written :
    (∀ p : Packet, p.Portable → ofText p.wire = .ok p.folded ∧ p.folded.wire = p.wire) ∧
    (∀ (text : String) (p : Packet), ofText text = .ok p → (∀ d ∈ p.d, d.Integral) →
      ofText p.wire = .ok p ∧ (ofText p.wire).map wire = .ok p.wire) ∧
    (∀ last : Option Nat, (∀ n ∈ last, n < 2 ^ 64) →
      ofText (heartbeat last).wire = .ok (outbound .heartbeat (last.map Json.ofNat))) ∧
    (∀ (token : String) (intents : Nat) (shard : Shard), intents < 2 ^ 64 → shard.id < 2 ^ 64 →
      shard.total < 2 ^ 64 →
      ofText (identify token intents shard).wire = .ok (identify token intents shard)) ∧
    (∀ (token session : String) (last : Option Nat), (∀ n ∈ last, n < 2 ^ 64) →
      ofText (resume token session last).wire = .ok (resume token session last)) := by
  refine ⟨?_, ?_, ?_, ?_, ?_⟩
  · intro p portable
    exact ⟨ofText_wire portable, wire_folded p⟩
  · intro text p found integral
    obtain ⟨portable, same⟩ := portable_of_ofText found integral
    have again : ofText p.wire = .ok p := by rw [ofText_wire portable, same]
    exact ⟨again, by rw [again]; rfl⟩
  · intro last small
    rw [ofText_wire (portable_heartbeat small), folded_heartbeat]
  · intro token intents shard intentsFit idFits totalFits
    exact ofText_wire (portable_identify token intentsFit idFits totalFits)
  · intro token session last small
    exact ofText_wire (portable_resume token session small)

/-- A frame with a list in its payload, a text that repeats a name and gives its fields as a list,
    and the frames of a shard that has just connected. -/
theorem written_frames_are_read_back :
    ofText (event "Ж\n" 7 (.list [.null, .text "𝄞", .ofInt (-3)])).wire =
      .ok (event "Ж\n" 7 (.list [.null, .text "𝄞", .ofInt (-3)])) ∧
    ofText "[10, \x7b\"b\": 1, \"a\": [], \"b\": 2\x7d, null, \"\\u0041\"]" =
      .ok ⟨.hello, some (.object [("a", .list []), ("b", .ofNat 2)]), none, some "A"⟩ ∧
    ofText (wire ⟨.hello, some (.object [("a", .list []), ("b", .ofNat 2)]), none, some "A"⟩) =
      .ok ⟨.hello, some (.object [("a", .list []), ("b", .ofNat 2)]), none, some "A"⟩ ∧
    ofText (heartbeat (some 7)).wire = .ok (heartbeat (some 7)) ∧
    ofText (identify "token" 513 ⟨3, 16⟩).wire = .ok (identify "token" 513 ⟨3, 16⟩) ∧
    ofText (resume "token" "session" none).wire = .ok (resume "token" "session" none) := by
  obtain ⟨written, again, beat, identification, resumption⟩ := read_of_written
  have found : ofText "[10, \x7b\"b\": 1, \"a\": [], \"b\": 2\x7d, null, \"\\u0041\"]" =
      .ok ⟨.hello, some (.object [("a", .list []), ("b", .ofNat 2)]), none, some "A"⟩ := by
    decide +kernel
  refine ⟨?_, found, (again _ _ found ?_).1, beat (some 7) (by simp),
    identification "token" 513 ⟨3, 16⟩ (by decide) (by decide) (by decide),
    resumption "token" "session" none (by simp)⟩
  · refine (written _ ⟨by simp [event], fun d present => ?_⟩).1
    obtain rfl := Option.some.inj present
    have negative : (Json.ofInt (-3)).Portable 0 :=
      ⟨.whole ⟨by decide, by decide⟩, .whole _, le_rfl⟩
    refine Json.Portable.mono (Json.portable_list ?_) (by decide : 1 ≤ nestingLimit - 1)
    simp [negative]
  · intro d present
    obtain rfl := Option.some.inj present
    have empty : (Json.list []).Integral := .list (by simp)
    have two : (Json.ofNat 2).Integral := .whole 2
    exact .object (by simp [empty, two])

end Packet
end SessionFleet
