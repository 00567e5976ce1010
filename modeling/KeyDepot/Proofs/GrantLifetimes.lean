import KeyDepot.Proofs.RegionWrites
import KeyDepot.Proofs.Runs

/-! The regions of a caller in a run. A region lives from its exposure until it is taken back, its
number is never given again, and while it lives it is as long as its descriptor says. -/

namespace KeyDepot

namespace Regions

/-- The number of the next region. -/
def number (regions : Regions) : UInt64 := UInt64.ofNat regions.next

/-- The region lives, with the access and the segment lengths it was exposed with. -/
def Keeps (region : Region) (regions : Regions) : Prop :=
  ∃ now, regions.find? region.id = some now ∧ now.access = region.access ∧
    now.segments.map Buffer.length = region.segments.map Buffer.length

variable {regions : Regions} {region : Region} {id : UInt64}

theorem mem_ids_iff : id ∈ regions.ids ↔ (regions.find? id).isSome := by
  simp [ids, find?]

theorem find?_of_dead (dead : id ∉ regions.ids) : regions.find? id = none := by
  simpa [mem_ids_iff] using dead

theorem mem_ids_revoke {other : UInt64} :
    id ∈ (regions.revoke other).ids ↔ id ∈ regions.ids ∧ other ≠ id := by
  have left : (regions.revoke other).ids = _ := ids_withdraw other regions
  simp [left, ne_comm]

theorem refused_of_dead (dead : id ∉ regions.ids) (writes : List SegmentWrite) :
    regions.pull id = .error (.invalidArgument (.regionUnknown id)) ∧
      regions.push id writes = .error (.invalidArgument (.regionUnknown id)) := by
  simp [pull, push, find?_of_dead dead]

theorem keeps_exposed (segments : List Buffer) (access : Access) (regions : Regions) :
    (regions.expose segments access).2.Keeps (regions.expose segments access).1 :=
  ⟨(regions.expose segments access).1, by simp [expose, find?], rfl, rfl⟩

theorem Keeps.expose (keeps : regions.Keeps region) {segments : List Buffer} {access : Access}
    (apart : regions.number ≠ region.id) : (regions.expose segments access).2.Keeps region := by
  obtain ⟨now, found, same⟩ := keeps
  refine ⟨now, ?_, same⟩
  have skipped : (UInt64.ofNat regions.next == region.id) = false := beq_false_of_ne apart
  simpa [Regions.expose, find?, skipped] using found

theorem Keeps.push (keeps : regions.Keeps region) {writes : List SegmentWrite} {after : Regions}
    (pushed : regions.push id writes = .ok after) : after.Keeps region := by
  obtain ⟨now, found, access, lengths⟩ := keeps
  by_cases same : region.id = id
  · subst same
    obtain ⟨old, there, written⟩ := find?_push pushed
    obtain rfl := Option.some.inj (there.symm.trans found)
    refine ⟨_, written, access, Eq.trans ?_ lengths⟩
    have kept := Region.lengths_foldl_applyWrite (old.segments.map Buffer.bytes) writes
    rwa [← Region.map_bytes_foldl_write, List.map_map, List.map_map] at kept
  · exact ⟨now, (find?_push_other pushed same).trans found, access, lengths⟩

theorem find?_revoke_other (apart : region.id ≠ id) :
    (regions.revoke id).find? region.id = regions.find? region.id := by
  simp only [revoke, find?, List.find?_filter]
  congr 1
  funext other
  by_cases same : other.id = region.id
  · simp [same, apart]
  · simp [same]

theorem Keeps.revoke (keeps : regions.Keeps region) (apart : region.id ≠ id) :
    (regions.revoke id).Keeps region := by
  obtain ⟨now, found, same⟩ := keeps
  exact ⟨now, (find?_revoke_other apart).trans found, same⟩

theorem Keeps.pull (keeps : regions.Keeps region) {pulled : List Bytes}
    (answered : regions.pull region.id = .ok pulled) :
    pulled.map (fun segment => UInt64.ofNat segment.length) = region.descriptor.sizes := by
  obtain ⟨now, found, -, lengths⟩ := keeps
  simp only [Regions.pull, found] at answered
  split at answered
  · obtain rfl := Except.ok.inj answered
    have widths := congrArg (List.map UInt64.ofNat) lengths
    simpa [Region.descriptor, Buffer.length, Function.comp_def] using widths
  · cases answered

end Regions

/-- What is done with the regions of a caller: the caller grants them and takes them back, the other
side reads and writes them. -/
inductive Dealing where
  | expose (segments : List Buffer) (access : Access)
  | pull (id : UInt64)
  | push (id : UInt64) (writes : List SegmentWrite)
  /-- The grant is given up with its segments. -/
  | revoke (id : UInt64)
  /-- The grant is given up and its segments are handed back. -/
  | withdraw (id : UInt64)
  deriving DecidableEq, Repr, Inhabited

namespace Dealing

@[reducible] def Answer : Dealing → Type
  | expose .. => Descriptor
  | pull _ => List Bytes
  | push .. | revoke _ => Unit
  | withdraw _ => List Buffer

/-- The dealing as it is carried out. A push that is refused changes nothing. -/
def act : (dealing : Dealing) → Regions → Outcome Regions dealing.Answer
  | expose segments access, regions =>
    let (region, regions) := regions.expose segments access
    (.ok region.descriptor, regions)
  | pull id, regions => (regions.pull id, regions)
  | push id writes, regions =>
    match regions.push id writes with
    | .ok after => (.ok (), after)
    | .error error => (.error error, regions)
  | revoke id, regions => (.ok (), regions.revoke id)
  | withdraw id, regions =>
    let (segments, regions) := regions.withdraw id
    (.ok segments, regions)

/-- Whether the dealing takes back the region with this number. -/
def ends (id : UInt64) : Dealing → Bool
  | revoke other | withdraw other => other == id
  | _ => false

/-- The grant that an answer tells of. -/
def grant? : (dealing : Dealing) → Except Error dealing.Answer → Option Descriptor
  | expose .., answer => answer.toOption
  | pull _, _ | push .., _ | revoke _, _ | withdraw _, _ => none

/-- The grants of a run, the oldest first. -/
def grants (told : List (Told Answer)) : List Descriptor :=
  told.filterMap fun answer => grant? answer.1 answer.2

theorem grants_cons (dealing : Dealing) (answer : Except Error dealing.Answer)
    (rest : List (Told Answer)) :
    grants (⟨dealing, answer⟩ :: rest) = (grant? dealing answer).toList ++ grants rest := by
  rw [grants, List.filterMap_cons]
  cases grant? dealing answer <;> rfl

theorem grants_append (front back : List (Told Answer)) :
    grants (front ++ back) = grants front ++ grants back :=
  List.filterMap_append

variable {regions : Regions} {id : UInt64}

/-- A region lives after a dealing that exposed it, and when it lived before and was not taken
back. -/
theorem mem_ids_act (dealing : Dealing) (regions : Regions) (id : UInt64) :
    id ∈ (dealing.act regions).2.ids ↔
      (∃ segments access, dealing = .expose segments access ∧ regions.number = id) ∨
        id ∈ regions.ids ∧ dealing.ends id = false := by
  cases dealing with
  | expose segments access =>
    simp [act, Regions.expose, Regions.ids, Regions.number, ends, eq_comm]
  | pull other => simp [act, ends]
  | push other writes =>
    simp only [act, ends, reduceCtorEq, false_and, exists_false, and_true, false_or]
    split
    · rename_i after pushed
      rw [Regions.ids_push pushed]
    · rfl
  | revoke other | withdraw other => simp [act, ends, Regions.withdraw, Regions.mem_ids_revoke]

/-- A region lives after a run when it was exposed in it, or before it, and was not taken back
since. -/
theorem mem_ids_run (dealings : List Dealing) (regions : Regions) (id : UInt64) :
    id ∈ (feed act dealings regions).2.ids ↔
      (id ∈ regions.ids ∧ ∀ later ∈ dealings, later.ends id = false) ∨
      ∃ before segments access after, dealings = before ++ .expose segments access :: after ∧
        (feed act before regions).2.number = id ∧ ∀ later ∈ after, later.ends id = false := by
  induction dealings generalizing regions with
  | nil => simp [feed]
  | cons dealing rest ih =>
    simp only [feed, ih, mem_ids_act, List.forall_mem_cons]
    constructor
    · rintro (⟨⟨segments, access, rfl, number⟩ | ⟨live, kept⟩, later⟩ |
        ⟨before, segments, access, after, rfl, number, later⟩)
      · exact .inr ⟨[], segments, access, rest, rfl, number, later⟩
      · exact .inl ⟨live, kept, later⟩
      · exact .inr ⟨dealing :: before, segments, access, after, rfl, number, later⟩
    · rintro (⟨live, kept, later⟩ | ⟨before, segments, access, after, split, number, later⟩)
      · exact .inl ⟨.inr ⟨live, kept⟩, later⟩
      · cases before with
        | nil =>
          obtain ⟨rfl, rfl⟩ := List.cons.inj split
          exact .inl ⟨.inl ⟨segments, access, rfl, number⟩, later⟩
        | cons first before =>
          obtain ⟨rfl, rfl⟩ := List.cons.inj split
          exact .inr ⟨before, segments, access, after, rfl, number, later⟩

theorem run_counts (dealings : List Dealing) (regions : Regions) :
    (feed act dealings regions).2.next =
        regions.next + (grants (feed act dealings regions).1).length ∧
      (grants (feed act dealings regions).1).map Descriptor.region =
        (List.range' regions.next (grants (feed act dealings regions).1).length).map
          UInt64.ofNat := by
  induction dealings generalizing regions with
  | nil => exact ⟨rfl, rfl⟩
  | cons dealing rest ih =>
    obtain ⟨next, numbers⟩ := ih (dealing.act regions).2
    have step : (dealing.act regions).2.next =
          regions.next + (grant? dealing (dealing.act regions).1).toList.length ∧
        (grant? dealing (dealing.act regions).1).toList.map Descriptor.region =
          (List.range' regions.next (grant? dealing (dealing.act regions).1).toList.length).map
            UInt64.ofNat := by
      cases dealing with
      | expose segments access => exact ⟨rfl, rfl⟩
      | push id writes =>
        simp only [act]
        split
        · rename_i pushed
          exact ⟨Regions.next_push pushed, rfl⟩
        · exact ⟨rfl, rfl⟩
      | _ => exact ⟨rfl, rfl⟩
    simp only [feed, grants_cons, List.length_append, List.map_append]
    rw [next, numbers, step.1, step.2, ← List.map_append, List.range'_append_1, Nat.add_assoc]
    exact ⟨rfl, rfl⟩

/-- As long as there are numbers, each grant has a greater one than those before it. -/
theorem grants_ascend (dealings : List Dealing) (regions : Regions)
    (room : regions.next + (grants (feed act dealings regions).1).length ≤ 2 ^ 64) :
    ((grants (feed act dealings regions).1).map Descriptor.region).Pairwise (· < ·) := by
  rw [(run_counts dealings regions).2, List.pairwise_map]
  refine (List.pairwise_lt_range' 1).imp_of_mem ?_
  intro number other member otherMember before
  rw [List.mem_range'_1] at member otherMember
  rw [UInt64.lt_iff_toNat_lt, UInt64.toNat_ofNat_of_lt' (by simp [UInt64.size]; omega),
    UInt64.toNat_ofNat_of_lt' (by simp [UInt64.size]; omega)]
  exact before

/-- A region keeps what its descriptor says for as long as it is not taken back and its number is
not given again. -/
theorem keeps_run {region : Region} (keeps : regions.Keeps region) {dealings : List Dealing}
    (kept : ∀ later ∈ dealings, later.ends region.id = false)
    (fresh : region.id ∉ (grants (feed act dealings regions).1).map Descriptor.region) :
    (feed act dealings regions).2.Keeps region := by
  induction dealings generalizing regions with
  | nil => exact keeps
  | cons dealing rest ih =>
    obtain ⟨first, later⟩ := List.forall_mem_cons.mp kept
    simp only [feed, grants_cons, List.map_append, List.mem_append, not_or] at fresh ⊢
    refine ih ?_ later fresh.2
    cases dealing with
    | expose segments access =>
      refine keeps.expose fun same => fresh.1 ?_
      exact List.mem_singleton.mpr same.symm
    | pull id => exact keeps
    | push id writes =>
      simp only [act]
      split
      · rename_i pushed
        exact keeps.push pushed
      · exact keeps
    | revoke id | withdraw id => exact keeps.revoke (Ne.symm (by simpa [ends] using first))

theorem feed_expose (before after : List Dealing) (segments : List Buffer) (access : Access) :
    let (region, exposed) := (feed act before regions).2.expose segments access
    let whole := feed act (before ++ .expose segments access :: after) regions
    whole.2 = (feed act after exposed).2 ∧
      grants whole.1 = grants (feed act before regions).1 ++ region.descriptor ::
        grants (feed act after exposed).1 := by
  simp only [feed_append, grants_append, feed, grants_cons]
  exact ⟨rfl, rfl⟩

/-- The grants of every run that does not run out of numbers. Their numbers ascend, so none is given
twice. A region lives exactly from its exposure until it is taken back; it keeps the access and the
lengths it was exposed with, and what is pulled from it has the sizes of its descriptor. Nothing is
pulled from or pushed to a number that does not live. A push that does not fit as a whole is refused
and changes nothing; one that fits overwrites the front of the named segments and nothing else. -/
theorem grants_live_until_taken_back (dealings : List Dealing)
    (few : (grants (feed act dealings {}).1).length < 2 ^ 64) :
    let (told, regions) := feed act dealings {}
    ((grants told).map Descriptor.region).Pairwise (· < ·) ∧
    (∀ id, id ∈ regions.ids ↔ ∃ before segments access after,
      dealings = before ++ .expose segments access :: after ∧
        (feed act before {}).2.number = id ∧ ∀ later ∈ after, later.ends id = false) ∧
    (∀ before segments access after, dealings = before ++ .expose segments access :: after →
      let region := ((feed act before {}).2.expose segments access).1
      (∀ later ∈ after, later.ends region.id = false) →
        regions.Keeps region ∧ ∀ pulled, regions.pull region.id = .ok pulled →
          pulled.map (fun segment => UInt64.ofNat segment.length) = region.descriptor.sizes) ∧
    (∀ id ∉ regions.ids, ∀ writes,
      regions.pull id = .error (.invalidArgument (.regionUnknown id)) ∧
        regions.push id writes = .error (.invalidArgument (.regionUnknown id))) ∧
    ∀ id writes,
      let (answer, after) := (Dealing.push id writes).act regions
      answer = .ok () ∧ regions.Overwrites id writes after ∨
        (∃ error, answer = .error error) ∧ ¬ regions.Accepts id writes ∧ after = regions := by
  have room : (1 : Nat) + (grants (feed act dealings {}).1).length ≤ 2 ^ 64 := by omega
  refine ⟨grants_ascend dealings {} room, fun id => ?_, ?_,
    fun id dead => Regions.refused_of_dead dead, fun id writes => ?_⟩
  · simpa [Regions.ids] using mem_ids_run dealings {} id
  · rintro before segments access after rfl region kept
    obtain ⟨reached, told⟩ := feed_expose before after segments access
    have ascending := grants_ascend _ {} room
    rw [told, List.map_append, List.map_cons] at ascending
    have later := (List.pairwise_cons.mp (List.pairwise_append.mp ascending).2.1).1
    have keeps := keeps_run (Regions.keeps_exposed segments access (feed act before {}).2) kept
      fun again => UInt64.lt_irrefl _ (later _ again)
    rw [reached]
    exact ⟨keeps, fun pulled => keeps.pull⟩
  · simp only [act]
    split
    · rename_i after pushed
      exact .inl ⟨rfl, Regions.overwrites_of_push pushed⟩
    · rename_i error refused
      exact .inr ⟨⟨error, rfl⟩, Regions.not_accepts_of_push refused, rfl⟩

/-- Two regions. The first is written twice in one segment, and then not at all by a push of which
the second write does not fit; the second region is taken back and written to afterwards. -/
def twoGrants : List Dealing :=
  [.expose [.ofBytes [1, 2, 3], .ofBytes []] .readWrite,
   .expose [.ofBytes [4]] .writeOnly,
   .push 1 [⟨0, [9, 9]⟩, ⟨0, [7]⟩],
   .push 1 [⟨0, [5]⟩, ⟨1, [6]⟩],
   .withdraw 2,
   .push 2 [⟨0, [8]⟩]]

theorem grants_live_until_taken_back_two :
    let (told, regions) := feed act twoGrants {}
    (grants told).length < 2 ^ 64 ∧ (grants told).map Descriptor.region = [1, 2] ∧
      1 ∈ regions.ids ∧ regions.pull 1 = .ok [[7, 9, 3], []] ∧
      regions.push 2 [] = .error (.invalidArgument (.regionUnknown 2)) ∧
      ¬ regions.Accepts 1 [⟨0, [5]⟩, ⟨1, [6]⟩] := by
  have few : (grants (feed act twoGrants {}).1).length < 2 ^ 64 := by decide
  obtain ⟨-, lives, -, dead, pushes⟩ := grants_live_until_taken_back twoGrants few
  refine ⟨few, by decide, ?_, by decide, ?_, ?_⟩
  · exact (lives 1).mpr ⟨[], _, _, twoGrants.tail, rfl, rfl, by decide⟩
  · exact (dead 2 (by decide) []).2
  · rcases pushes 1 [⟨0, [5]⟩, ⟨1, [6]⟩] with ⟨accepted, -⟩ | ⟨-, refused, -⟩
    · cases accepted
    · exact refused

end Dealing

end KeyDepot
