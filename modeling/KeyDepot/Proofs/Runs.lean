import KeyDepot.Storage.MapStore

namespace KeyDepot

variable {ι σ τ : Type} {α : ι → Type}

/-- An input with its answer. -/
abbrev Told (α : ι → Type) := (input : ι) × Except Error (α input)

/-- Gives a machine the inputs, one after the other. -/
def feed (act : (input : ι) → σ → Outcome σ (α input)) : List ι → σ → List (Told α) × σ
  | [], state => ([], state)
  | input :: rest, state =>
    let (answer, state) := act input state
    let (others, state) := feed act rest state
    (⟨input, answer⟩ :: others, state)

theorem feed_append (act : (input : ι) → σ → Outcome σ (α input)) (front back : List ι)
    (state : σ) :
    feed act (front ++ back) state =
      ((feed act front state).1 ++ (feed act back (feed act front state).2).1,
        (feed act back (feed act front state).2).2) := by
  induction front generalizing state with
  | nil => rfl
  | cons input rest ih => simp only [List.cons_append, feed, ih]

/-- Machines that agree, and go on to agree with one answer to each input, give one answer to each
in every run. -/
theorem feed_agree {agree : σ → τ → Prop} {left : (input : ι) → σ → Outcome σ (α input)}
    {right : (input : ι) → τ → Outcome τ (α input)}
    (each : ∀ input {state other}, agree state other →
      (left input state).1 = (right input other).1 ∧
        agree (left input state).2 (right input other).2)
    (inputs : List ι) {state : σ} {other : τ} (start : agree state other) :
    (feed left inputs state).1 = (feed right inputs other).1 ∧
      agree (feed left inputs state).2 (feed right inputs other).2 := by
  induction inputs generalizing state other with
  | nil => exact ⟨rfl, start⟩
  | cons input rest ih =>
    obtain ⟨answer, next⟩ := each input start
    obtain ⟨answers, last⟩ := ih next
    refine ⟨?_, last⟩
    simp only [feed, answer, answers]

namespace MapStore

variable {agree : MapStore → σ → Prop} {put : Bytes → Bytes → σ → Outcome σ Bool}

/-- A machine whose puts agree with those of a store agrees with it when it puts one item after the
other. -/
theorem putEach_agree
    (each : ∀ key value {store state}, agree store state →
      (.ok (store.put key value).1 : Except Error Bool) = (put key value state).1 ∧
        agree (store.put key value).2 (put key value state).2)
    (items : List (Bytes × Bytes)) {store : MapStore} {state : σ} (start : agree store state) :
    (.ok (store.putEach items).1 : Except Error (List Bool)) = (putAll put items state).1 ∧
      agree (store.putEach items).2 (putAll put items state).2 := by
  induction items generalizing store state with
  | nil => exact ⟨rfl, start⟩
  | cons item rest ih =>
    obtain ⟨key, value⟩ := item
    obtain ⟨answer, next⟩ := each key value start
    obtain ⟨answers, last⟩ := ih next
    cases first : put key value state with
    | mk outcome after =>
      cases others : putAll put rest after with
      | mk outcomes final =>
        simp only [first, others] at answer answers last
        subst answer answers
        have whole : putAll put ((key, value) :: rest) state =
            (.ok ((store.put key value).1 :: ((store.put key value).2.putEach rest).1), final) := by
          simp only [putAll, first, others]
        rw [whole]
        exact ⟨rfl, last⟩

/-- It agrees on a batch too, also on one that is refused. -/
theorem putMulti_agree
    (each : ∀ key value {store state}, agree store state →
      (.ok (store.put key value).1 : Except Error Bool) = (put key value state).1 ∧
        agree (store.put key value).2 (put key value state).2)
    (keys values : List Bytes) {store : MapStore} {state : σ} (start : agree store state) :
    (store.perform (.putMulti keys values)).1 = (putBatch put keys values state).1 ∧
      agree (store.perform (.putMulti keys values)).2 (putBatch put keys values state).2 := by
  by_cases even : keys.length = values.length
  · simp only [perform, putBatch, if_pos even]
    exact putEach_agree each (keys.zip values) start
  · simp only [perform, putBatch, if_neg even]
    exact ⟨trivial, start⟩

end MapStore

end KeyDepot
