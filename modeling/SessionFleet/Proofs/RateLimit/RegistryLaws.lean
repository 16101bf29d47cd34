import SessionFleet.Proofs.RateLimit.BucketRuns
import SessionFleet.RateLimit.Registry
/- What a step on an endpoint's bucket does to the registry: the bucket that is stored or made is the
   one the endpoint is mapped to, it goes back to its own place, and no other bucket is touched. -/
namespace SessionFleet
namespace Registry

variable {r s : Registry} {endpoint : String} {major : Nat} {wall : Instant} {id : BucketId}
  {b : Bucket} {γ : Type}

/-- Every bucket is stored under its own identity, and all have the property. -/
def Every (P : Bucket → Prop) (r : Registry) : Prop := ∀ e ∈ r.buckets, e.2.identity = e.1 ∧ P e.2

def WellFiled (r : Registry) : Prop := r.Every fun _ => True

theorem empty_every (P : Bucket → Prop) : Registry.empty.Every P := by
  intro e member
  simp [Registry.empty] at member

theorem every_of_get? {P : Bucket → Prop} (every : r.Every P) (stored : r.buckets.get? id = some b) :
    b.identity = id ∧ P b :=
  every (id, b) (Table.mem_of_get? stored)

theorem major_of_bucketId? (mapped : r.bucketId? endpoint major = some id) : id.2 = major := by
  simp only [bucketId?, Option.map_eq_some_iff] at mapped
  obtain ⟨key, _, pair⟩ := mapped
  rw [← pair]

theorem bucket?_of_stored (mapped : r.bucketId? endpoint major = some id)
    (stored : r.buckets.get? id = some b) : r.bucket? endpoint major wall = some (b, r) := by
  simp [bucket?, mapped, stored]

theorem bucket?_of_new {limit : Nat} (mapped : r.bucketId? endpoint major = some id)
    (absent : r.buckets.get? id = none) (known : r.limits.get? id.1 = some limit) :
    r.bucket? endpoint major wall =
      some (Bucket.create id.1 id.2 limit wall,
        { r with buckets := r.buckets.put id (Bucket.create id.1 id.2 limit wall) }) := by
  simp [bucket?, mapped, absent, known, major_of_bucketId? mapped]

/-- The bucket is the stored one, or it is made with the limit that its key is known to have. -/
theorem bucket?_cases (found : r.bucket? endpoint major wall = some (b, s)) :
    ∃ id, r.bucketId? endpoint major = some id ∧
      ((r.buckets.get? id = some b ∧ s = r) ∨
        (r.buckets.get? id = none ∧ ∃ limit, r.limits.get? id.1 = some limit ∧
          b = Bucket.create id.1 id.2 limit wall ∧ s = { r with buckets := r.buckets.put id b })) := by
  cases mapped : r.bucketId? endpoint major with
  | none => simp [bucket?, mapped] at found
  | some id =>
    refine ⟨id, rfl, ?_⟩
    cases stored : r.buckets.get? id with
    | some c =>
      rw [bucket?_of_stored mapped stored] at found
      simp only [Option.some.injEq, Prod.mk.injEq] at found
      exact Or.inl ⟨by rw [found.1], found.2.symm⟩
    | none =>
      cases known : r.limits.get? id.1 with
      | none => simp [bucket?, mapped, stored, known] at found
      | some limit =>
        rw [bucket?_of_new mapped stored known] at found
        simp only [Option.some.injEq, Prod.mk.injEq] at found
        obtain ⟨made, put⟩ := found
        exact Or.inr ⟨rfl, limit, rfl, made.symm, by rw [← put, made]⟩

theorem put_every {P : Bucket → Prop} (every : r.Every P) (own : b.identity = id) (has : P b) :
    Every P { r with buckets := r.buckets.put id b } := by
  intro e member
  rcases Table.mem_put member with new | old
  · rw [new]; exact ⟨own, has⟩
  · exact every e old

/-- The bucket is filed under what the endpoint is mapped to, whether it was stored or is new. -/
theorem bucket?_every {P : Bucket → Prop} (every : r.Every P)
    (made : ∀ id limit, r.bucketId? endpoint major = some id → P (Bucket.create id.1 id.2 limit wall))
    (found : r.bucket? endpoint major wall = some (b, s)) :
    s.Every P ∧ P b ∧ r.bucketId? endpoint major = some b.identity := by
  obtain ⟨id, mapped, ⟨stored, same⟩ | ⟨_, limit, _, new, put⟩⟩ := bucket?_cases found
  · obtain ⟨own, has⟩ := every_of_get? every stored
    exact ⟨by rwa [same], has, by rw [mapped, own]⟩
  · have own : b.identity = id := by rw [new]; rfl
    have has : P b := by rw [new]; exact made id limit mapped
    exact ⟨by rw [put]; exact put_every every own has, has, by rw [mapped, own]⟩

/-- A property that new buckets have and that the step keeps holds of all buckets afterwards. -/
theorem onBucket_every {P : Bucket → Prop} {f : Bucket → γ × Bucket} (every : r.Every P)
    (made : ∀ id limit, r.bucketId? endpoint major = some id → P (Bucket.create id.1 id.2 limit wall))
    (kept : ∀ b, r.bucketId? endpoint major = some b.identity → P b →
      (f b).2.identity = b.identity ∧ P (f b).2) :
    (r.onBucket endpoint major wall f).2.Every P := by
  unfold onBucket
  cases found : r.bucket? endpoint major wall with
  | none => exact every
  | some entry =>
    obtain ⟨b, s⟩ := entry
    obtain ⟨others, has, mapped⟩ := bucket?_every every made found
    exact put_every others rfl (kept b mapped has).2

theorem onBucket_of_stored (wall : Instant) (f : Bucket → γ × Bucket)
    (mapped : r.bucketId? endpoint major = some id) (stored : r.buckets.get? id = some b) :
    r.onBucket endpoint major wall f = (some (f b).1, r.store (f b).2) := by
  simp only [onBucket, bucket?_of_stored mapped stored]

/- What a step on an endpoint's bucket finds and where it puts it, and what it leaves alone. -/

/-- The bucket that a step finds: the stored one, or a new one. -/
def found? (r : Registry) (endpoint : String) (major : Nat) (wall : Instant) : Option Bucket :=
  (r.bucket? endpoint major wall).map Prod.fst

theorem found?_of_unmapped (unmapped : r.bucketId? endpoint major = none) :
    r.found? endpoint major wall = none := by
  simp [found?, bucket?, unmapped]

theorem found?_of_stored (mapped : r.bucketId? endpoint major = some id)
    (stored : r.buckets.get? id = some b) : r.found? endpoint major wall = some b := by
  simp [found?, bucket?_of_stored mapped stored]

theorem found?_of_absent (mapped : r.bucketId? endpoint major = some id)
    (absent : r.buckets.get? id = none) :
    r.found? endpoint major wall =
      (r.limits.get? id.1).map fun limit => Bucket.create id.1 id.2 limit wall := by
  cases known : r.limits.get? id.1 with
  | none => simp [found?, bucket?, mapped, absent, known]
  | some limit => simp [found?, bucket?_of_new mapped absent known]

/-- Whatever bucket a step finds, what becomes of it is put in its place and nothing else is
    changed. -/
theorem onBucket_of_found {f : Bucket → γ × Bucket} (found : r.found? endpoint major wall = some b)
    (kept : (f b).2.identity = b.identity) :
    r.onBucket endpoint major wall f = (some (f b).1, r.store (f b).2) := by
  obtain ⟨⟨c, s⟩, entry, same⟩ := Option.map_eq_some_iff.mp found
  cases same
  simp only [onBucket, entry]
  obtain ⟨id, _, ⟨_, same⟩ | ⟨_, _, _, new, put⟩⟩ := bucket?_cases entry
  · rw [same]
  · have own : (f c).2.identity = id := by rw [kept, new]; rfl
    simp only [put, store, ← own]
    rw [show ((f c).2.key, (f c).2.major) = (f c).2.identity from rfl, Table.put_put]

theorem onBucket_of_nothing (f : Bucket → γ × Bucket)
    (nothing : r.found? endpoint major wall = none) :
    r.onBucket endpoint major wall f = (none, r) := by
  simp only [found?, Option.map_eq_none_iff] at nothing
  simp only [onBucket, nothing]

theorem onBucket_learned (f : Bucket → γ × Bucket) :
    (r.onBucket endpoint major wall f).2.keys = r.keys ∧
      (r.onBucket endpoint major wall f).2.limits = r.limits := by
  unfold onBucket
  cases found : r.bucket? endpoint major wall with
  | none => exact ⟨rfl, rfl⟩
  | some entry =>
    obtain ⟨b, s⟩ := entry
    obtain ⟨_, _, ⟨_, same⟩ | ⟨_, _, _, _, put⟩⟩ := bucket?_cases found
    · rw [same]
      exact ⟨rfl, rfl⟩
    · rw [put]
      exact ⟨rfl, rfl⟩

theorem get?_store_own (own : b.identity = id) : (r.store b).buckets.get? id = some b := by
  rw [← own]
  exact Table.get?_put_self _ _ _

theorem get?_store_of_ne (other : b.identity ≠ id) :
    (r.store b).buckets.get? id = r.buckets.get? id :=
  Table.get?_put_of_ne other _ _

/-- Looking for a bucket that is mapped elsewhere makes none here. -/
theorem get?_of_bucket?_elsewhere (elsewhere : r.bucketId? endpoint major ≠ some id)
    (found : r.bucket? endpoint major wall = some (b, s)) :
    s.buckets.get? id = r.buckets.get? id := by
  obtain ⟨other, mapped, ⟨_, same⟩ | ⟨_, _, _, _, put⟩⟩ := bucket?_cases found
  · rw [same]
  · have ne : other ≠ id := fun same => elsewhere (by rw [mapped, same])
    rw [put]
    exact Table.get?_put_of_ne ne _ _

theorem get?_onBucket_elsewhere (wall : Instant) {f : Bucket → γ × Bucket}
    (filed : r.WellFiled) (kept : ∀ b, (f b).2.identity = b.identity)
    (elsewhere : r.bucketId? endpoint major ≠ some id) :
    (r.onBucket endpoint major wall f).2.buckets.get? id = r.buckets.get? id := by
  unfold onBucket
  cases found : r.bucket? endpoint major wall with
  | none => rfl
  | some entry =>
    obtain ⟨b, s⟩ := entry
    obtain ⟨_, _, mapped⟩ := bucket?_every filed (fun _ _ _ => trivial) found
    have other : (f b).2.identity ≠ id := by
      rw [kept]
      exact fun same => elsewhere (by rw [mapped, same])
    rw [← get?_of_bucket?_elsewhere elsewhere found]
    exact get?_store_of_ne other

/-- Looking a bucket up may make one, but changes none that is there. -/
theorem get?_onBucket_unchanged (endpoint : String) (major : Nat) (wall : Instant)
    (filed : r.WellFiled) (stored : r.buckets.get? id = some b) :
    (r.onBucket endpoint major wall fun b => (b, b)).2.buckets.get? id = some b := by
  by_cases mapped : r.bucketId? endpoint major = some id
  · rw [onBucket_of_stored wall _ mapped stored]
    exact get?_store_own (every_of_get? filed stored).1
  · exact (get?_onBucket_elsewhere wall (f := fun b => (b, b)) filed (fun _ => rfl) mapped).trans stored

/- What every registry keeps: one bucket for each identity, and the limit of every key that has a
   bucket. -/

structure Sound (r : Registry) : Prop where
  filed : r.WellFiled
  distinct : r.buckets.Distinct
  known : ∀ e ∈ r.buckets, ∃ limit, r.limits.get? e.1.1 = some limit

theorem empty_sound : Registry.empty.Sound :=
  ⟨empty_every _, by simp [Registry.empty, Table.Distinct], by simp [Registry.empty]⟩

theorem put_sound {limit : Nat} (sound : r.Sound) (own : b.identity = id)
    (known : r.limits.get? id.1 = some limit) :
    Sound { r with buckets := r.buckets.put id b } := by
  refine ⟨put_every sound.filed own trivial, Table.put_distinct sound.distinct id b, ?_⟩
  intro e member
  rcases Table.mem_put member with new | old
  · rw [new]
    exact ⟨limit, known⟩
  · exact sound.known e old

theorem learn_sound (sound : r.Sound) (endpoint key : String) (limit : Option Nat) :
    (r.learn endpoint key limit).Sound := by
  refine ⟨sound.filed, sound.distinct, ?_⟩
  intro e member
  obtain ⟨before, known⟩ := sound.known e member
  cases limit with
  | none => exact ⟨before, known⟩
  | some n =>
    by_cases same : key = e.1.1
    · exact ⟨n, by simp only [learn, same, Table.get?_put_self]⟩
    · exact ⟨before, by simp only [learn, Table.get?_put_of_ne same, known]⟩

theorem prune_sound (sound : r.Sound) (now : Instant) : (r.prune now).Sound := by
  refine ⟨?_, Table.filter_distinct sound.distinct _, ?_⟩
  · intro e member
    exact sound.filed e (List.mem_filter.mp member).1
  · intro e member
    exact sound.known e (List.mem_filter.mp member).1

theorem onBucket_sound {f : Bucket → γ × Bucket} (sound : r.Sound)
    (kept : ∀ b, (f b).2.identity = b.identity) : (r.onBucket endpoint major wall f).2.Sound := by
  unfold onBucket
  cases found : r.bucket? endpoint major wall with
  | none => exact sound
  | some entry =>
    obtain ⟨b, s⟩ := entry
    obtain ⟨id, _, ⟨stored, same⟩ | ⟨_, limit, known, new, put⟩⟩ := bucket?_cases found
    · have own : b.identity = id := (every_of_get? sound.filed stored).1
      obtain ⟨limit, known⟩ := sound.known (id, b) (Table.mem_of_get? stored)
      have known : r.limits.get? (f b).2.identity.1 = some limit := by rw [kept, own]; exact known
      rw [same]
      exact put_sound sound rfl known
    · have own : b.identity = id := by rw [new]; rfl
      have made : s.Sound := by rw [put]; exact put_sound sound own known
      have still : s.limits.get? (f b).2.identity.1 = some limit := by
        rw [kept, put, own]
        exact known
      exact put_sound made rfl still

end Registry
end SessionFleet
