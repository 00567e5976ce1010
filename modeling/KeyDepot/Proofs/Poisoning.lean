import KeyDepot.Proofs.Runs
import KeyDepot.Service.Database

namespace KeyDepot.Database

variable {σ : Type} [Engine σ]

/-- The engine failed none of the operations with these answers. -/
def Unfailed (answers : List (Told Operation.Answer)) : Prop :=
  ∀ answer ∈ answers, ∀ reason, answer.2 ≠ .error (.engine reason)

theorem unfailed_nil : Unfailed [] := by
  intro answer member
  cases member

theorem unfailed_cons {operation : Operation} {outcome : Except Error operation.Answer}
    {rest : List (Told Operation.Answer)} :
    Unfailed (⟨operation, outcome⟩ :: rest) ↔
      (∀ reason, outcome ≠ .error (.engine reason)) ∧ Unfailed rest :=
  List.forall_mem_cons

/-- An operation that the database with this number refuses. -/
def refuse (id : DatabaseId) (operation : Operation) : Told Operation.Answer :=
  ⟨operation, .error (.poisoned id)⟩

theorem poisons_of_unfailed {α : Type} {outcome : Except Error α}
    (unfailed : ∀ reason, outcome ≠ .error (.engine reason)) : poisons outcome = false := by
  unfold poisons
  split
  · rename_i reason
    exact absurd rfl (unfailed reason)
  · rfl

/-- While it is not poisoned, a database asks its engine and gives its answer. -/
theorem perform_sound {db : Database σ} (sound : db.poisoned = false) (operation : Operation) :
    db.perform operation =
      ((Engine.perform operation db.store).1,
        { db with
          store := (Engine.perform operation db.store).2
          poisoned := poisons (Engine.perform operation db.store).1 }) := by
  rw [perform, sound, if_neg Bool.false_ne_true]

theorem feed_poisoned (db : Database σ) (poisoned : db.poisoned = true)
    (operations : List Operation) :
    feed perform operations db = (operations.map (refuse db.id), db) := by
  induction operations with
  | nil => rfl
  | cons operation rest ih =>
    have refused : db.perform operation = (.error (.poisoned db.id), db) := by
      rw [perform, if_pos poisoned]
    simp only [feed, refused, ih, List.map_cons, refuse]

/-- As long as the engine does not fail, the database does what the engine does. -/
theorem feed_sound (db : Database σ) (sound : db.poisoned = false) {operations : List Operation}
    (unfailed : Unfailed (feed Engine.perform operations db.store).1) :
    feed perform operations db =
      ((feed Engine.perform operations db.store).1,
        { db with store := (feed Engine.perform operations db.store).2 }) := by
  induction operations generalizing db with
  | nil => rfl
  | cons operation rest ih =>
    obtain ⟨first, later⟩ := unfailed_cons.mp unfailed
    have stays : poisons (Engine.perform operation db.store).1 = db.poisoned := by
      rw [sound]
      exact poisons_of_unfailed first
    have performed := perform_sound sound operation
    rw [stays] at performed
    have next := ih { db with store := (Engine.perform operation db.store).2 } sound later
    simp only [feed, performed, next]

theorem feed_failing {db : Database σ} (sound : db.poisoned = false) {failing : Operation}
    {reason : String} {state : σ}
    (fails : Engine.perform failing db.store = (.error (.engine reason), state))
    (operations : List Operation) :
    feed perform (failing :: operations) db =
      (⟨failing, .error (.engine reason)⟩ :: operations.map (refuse db.id),
        { db with store := state, poisoned := true }) := by
  have performed := perform_sound sound failing
  rw [fails] at performed
  have poisoned : poisons (.error (.engine reason) : Except Error failing.Answer) = true := rfl
  rw [poisoned] at performed
  have refused := feed_poisoned { db with store := state, poisoned := true } rfl operations
  simp only [feed, performed, refused]

theorem feed_to_failure {store state : σ} {before : List Operation} {failing : Operation}
    {reason : String}
    (fails : Engine.perform failing (feed Engine.perform before store).2 =
      (.error (.engine reason), state)) :
    feed Engine.perform (before ++ [failing]) store =
      ((feed Engine.perform before store).1 ++ [⟨failing, .error (.engine reason)⟩], state) := by
  simp only [feed_append, feed, fails]

/-- A database does what its engine does up to the first failure, and refuses the rest. -/
theorem feed_past_failure {db : Database σ} (sound : db.poisoned = false) {state : σ}
    {before : List Operation} {failing : Operation} {reason : String}
    (unfailed : Unfailed (feed Engine.perform before db.store).1)
    (fails : Engine.perform failing (feed Engine.perform before db.store).2 =
      (.error (.engine reason), state)) (after : List Operation) :
    feed perform (before ++ failing :: after) db =
      ((feed Engine.perform (before ++ [failing]) db.store).1 ++ after.map (refuse db.id),
        { db with store := state, poisoned := true }) := by
  let reached : Database σ := { db with store := (feed Engine.perform before db.store).2 }
  have asked : feed perform before db = ((feed Engine.perform before db.store).1, reached) :=
    feed_sound db sound unfailed
  have unpoisoned : reached.poisoned = false := sound
  rw [feed_append, asked, feed_failing unpoisoned fails, feed_to_failure fails, List.append_assoc]
  rfl

/-- A run of an engine has no failure or a first one. -/
theorem unfailed_or_first_failure (operations : List Operation) (store : σ) :
    Unfailed (feed Engine.perform operations store).1 ∨
      ∃ before failing after reason state, operations = before ++ failing :: after ∧
        Unfailed (feed Engine.perform before store).1 ∧
        Engine.perform failing (feed Engine.perform before store).2 =
          (.error (.engine reason), state) := by
  induction operations generalizing store with
  | nil => exact .inl unfailed_nil
  | cons operation rest ih =>
    by_cases failed : ∃ reason, (Engine.perform operation store).1 = .error (.engine reason)
    · obtain ⟨reason, same⟩ := failed
      exact .inr ⟨[], operation, rest, reason, _, rfl, unfailed_nil, Prod.ext same rfl⟩
    · have first := not_exists.mp failed
      rcases ih (Engine.perform operation store).2 with unfailed | later
      · exact .inl (unfailed_cons.mpr ⟨first, unfailed⟩)
      · obtain ⟨before, failing, after, reason, state, rfl, unfailed, fails⟩ := later
        exact .inr ⟨operation :: before, failing, after, reason, state, rfl,
          unfailed_cons.mpr ⟨first, unfailed⟩, fails⟩

/-- In every run of a database that was just opened, the engine carries out the operations up to the
first that it fails, and its answers are those of the database. The database is poisoned when there
was such a failure. It refuses all operations after that with its own number, and the engine stays
as the failure left it. -/
theorem engine_asked_until_failure (id : DatabaseId) (config : DatabaseConfig) (store : σ)
    (operations : List Operation) :
    ∃ reached refused, operations = reached ++ refused ∧
      let (answers, state) := feed Engine.perform reached store
      let (told, db) := feed perform operations { id, config, store }
      told = answers ++ refused.map (refuse id) ∧
      db = { id, config, store := state, poisoned := db.poisoned } ∧
      (db.poisoned = true ↔ ∃ answer ∈ answers, ∃ reason, answer.2 = .error (.engine reason)) ∧
      Unfailed answers.dropLast ∧
      (db.poisoned = false → refused = []) := by
  let opened : Database σ := { id, config, store }
  rcases unfailed_or_first_failure operations store with unfailed | failure
  · refine ⟨operations, [], (List.append_nil _).symm, ?_⟩
    have run := feed_sound opened rfl unfailed
    rw [run]
    refine ⟨(List.append_nil _).symm, rfl, ?_, ?_, fun _ => rfl⟩
    · constructor
      · intro poisoned
        cases poisoned
      · rintro ⟨answer, member, reason, same⟩
        exact absurd same (unfailed answer member reason)
    · intro answer member
      exact unfailed answer (List.dropLast_subset _ member)
  · obtain ⟨before, failing, after, reason, state, rfl, unfailed, fails⟩ := failure
    refine ⟨before ++ [failing], after, List.append_cons .., ?_⟩
    have run : feed perform (before ++ failing :: after) opened = _ :=
      feed_past_failure rfl unfailed fails after
    rw [run, feed_to_failure fails]
    refine ⟨rfl, rfl, ?_, ?_, ?_⟩
    · simp
    · rw [List.dropLast_concat]
      exact unfailed
    · intro sound
      cases sound

end KeyDepot.Database
