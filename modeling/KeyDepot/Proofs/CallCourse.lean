import KeyDepot.Proofs.ServerLookup

/-! The course of one call on the server's side, turn by turn. The connection asks for something and
waits, or it answers, or it is given up; a client that keeps to the protocol answers what was
asked. -/

namespace KeyDepot

/-- Whether a frame is a reply. -/
def Frame.isReply : Frame → Bool
  | .reply _ => true
  | _ => false

variable {σ : Type} [Engine σ]

namespace Phase

/-- The answers a connection waits for when it stands here. -/
def Awaits : Phase → Frame → Prop
  | pulling .., .bulkData _ | pulling .., .bulkDenied _ => True
  | pushing .., .bulkAck | pushing .., .bulkDenied _ => True
  | _, _ => False

/-- No call is under way. -/
def isOver : Phase → Bool
  | idle | closed _ | panicked _ => true
  | _ => false

theorem fail_answers (rpc : Rpc) {error : Error} (goesOn : error.breaksConnection = false) :
    fail rpc error = answer (.failure rpc error.replyStatus) := by
  simp [fail, goesOn]

end Phase

/-- The transfers come to one that panics, when the pushes before it are confirmed. -/
def Transfer.Panics : List Transfer → List Frame → Prop
  | .stop _ :: _, _ => True
  | .push .. :: rest, .bulkAck :: answers => Panics rest answers
  | _, _ => False

namespace Turn

/-- Each of these answers is one the connection waits for when it comes. -/
def Follows : Turn σ → List Frame → Prop
  | _, [] => True
  | turn, answer :: rest =>
    turn.phase.Awaits answer ∧ Follows (turn.server.step turn.phase (.ok answer)) rest

/-- The turn these answers lead to. -/
def last : Turn σ → List Frame → Turn σ
  | turn, [] => turn
  | turn, answer :: rest => last (turn.server.step turn.phase (.ok answer)) rest

/-- What the connection has to say from this turn on. -/
def saying : Turn σ → List Frame → List Frame
  | turn, [] => turn.said.toList
  | turn, answer :: rest =>
    turn.said.toList ++ saying (turn.server.step turn.phase (.ok answer)) rest

/-- The turns of a call, with a bound on the answers that can still come. -/
inductive Stands (turn : Turn σ) : Nat → Prop where
  | answered {bound : Nat} (reply : Reply) (idle : turn.phase = .idle)
      (said : turn.said = some (.reply reply)) : Stands turn bound
  | pulls {bound : Nat} {target : UInt8} {id : DatabaseId} {key : Bytes} {source : Descriptor}
      (waits : turn.phase = .pulling target id key source)
      (said : turn.said = some (.bulkPull source.region)) : Stands turn (bound + 1)
  | pushes {bound : Nat} {rpc : Rpc} {region : UInt64} {rest : List Transfer} {reply : Reply}
      {writes : List SegmentWrite} (waits : turn.phase = .pushing rpc region rest reply)
      (said : turn.said = some (.bulkPush region writes)) (few : rest.length ≤ bound) :
      Stands turn (bound + 1)
  | broken {bound : Nat} (error : Error) (closed : turn.phase = .closed (.error error))
      (silent : turn.said = none) (breaks : error.breaksConnection = true) : Stands turn bound
  | panicked {bound : Nat} (cause : Panic) (stopped : turn.phase = .panicked cause)
      (silent : turn.said = none) : Stands turn bound

omit [Engine σ] in
theorem fail_stands (server : Server σ) (rpc : Rpc) (error : Error) (bound : Nat) :
    (⟨server, (Phase.fail rpc error).1, (Phase.fail rpc error).2⟩ : Turn σ).Stands bound := by
  by_cases breaks : error.breaksConnection = true
  · exact .broken error (by simp [Phase.fail, breaks]) (by simp [Phase.fail, breaks]) breaks
  · exact .answered (.failure rpc error.replyStatus) (by simp [Phase.fail, breaks, Phase.answer])
      (by simp [Phase.fail, breaks, Phase.answer])

omit [Engine σ] in
theorem failWith_stands (server : Server σ) (rpc : Rpc) (error : Error) (bound : Nat) :
    (server.failWith rpc error).Stands bound :=
  fail_stands server rpc error bound

omit [Engine σ] in
theorem proceed_stands (server : Server σ) (rpc : Rpc) (reply : Reply)
    {transfers : List Transfer} {bound : Nat} (few : transfers.length ≤ bound) :
    (⟨server, (Phase.proceed rpc reply transfers).1, (Phase.proceed rpc reply transfers).2⟩ :
      Turn σ).Stands bound := by
  cases transfers with
  | nil => exact .answered reply rfl rfl
  | cons transfer rest =>
    cases transfer with
    | refuse cause => exact fail_stands server rpc (.invalidArgument cause) bound
    | stop cause => exact .panicked cause rfl rfl
    | push region writes =>
      obtain ⟨bound, rfl⟩ := Nat.exists_eq_add_of_le' few
      exact .pushes rfl rfl (Nat.le_add_left ..)

/-- What follows on the answer of an operation: so many transfers at most, and the reply, unless the
answers of the client lead to a panic. -/
def Proceeds {α : Type} (bound : Nat) (panics : List Frame → α → Prop)
    (next : α → Phase × Option Frame) : Prop :=
  ∀ answer, ∃ rpc reply transfers, next answer = Phase.proceed rpc reply transfers ∧
    transfers.length ≤ bound ∧ ∀ answers, Transfer.Panics transfers answers ↔ panics answers answer

theorem proceeds_answer {α : Type} (bound : Nat) (rpc : Rpc) (reply : α → Reply)
    {panics : List Frame → α → Prop} (never : ∀ answers answer, ¬ panics answers answer) :
    Proceeds bound panics fun answer => Phase.answer (reply answer) :=
  fun answer => ⟨rpc, reply answer, [], rfl, Nat.zero_le _, fun answers =>
    iff_of_false id (never answers answer)⟩

theorem runFor_stands (target : UInt8) (id : DatabaseId) (rpc : Rpc) (operation : Operation)
    {next : operation.Answer → Phase × Option Frame} {bound : Nat}
    {panics : List Frame → operation.Answer → Prop} (proceeds : Proceeds bound panics next)
    (server : Server σ) :
    (server.runFor target id rpc operation next).Stands bound := by
  simp only [Server.runFor]
  split
  · exact .answered _ rfl rfl
  · exact fail_stands ..
  · rename_i answer after _
    obtain ⟨rpc, reply, transfers, goes, few, -⟩ := proceeds answer
    rw [goes]
    exact proceed_stands after rpc reply few

/-- Every answer the connection waits for leads on, and fewer answers can come after it. -/
theorem Stands.step {turn : Turn σ} {bound : Nat} (stands : turn.Stands bound) {answer : Frame}
    (awaited : turn.phase.Awaits answer) :
    ∃ fewer, bound = fewer + 1 ∧ (turn.server.step turn.phase (.ok answer)).Stands fewer := by
  cases stands with
  | answered reply idle said => simp [idle, Phase.Awaits] at awaited
  | broken error closed silent breaks => simp [closed, Phase.Awaits] at awaited
  | panicked cause stopped silent => simp [stopped, Phase.Awaits] at awaited
  | @pulls fewer target id key source waits said =>
    refine ⟨fewer, rfl, ?_⟩
    rw [waits] at awaited ⊢
    cases answer <;> simp only [Phase.Awaits] at awaited
    case bulkData segments =>
      simp only [Server.step, Server.stepPulling]
      split
      · have answers : Proceeds fewer (fun _ _ => False) fun stored =>
            Phase.answer (.ofPut stored) := proceeds_answer fewer .bulkPut _ fun _ _ => not_false
        exact runFor_stands target id .bulkPut _ answers _
      · exact failWith_stands ..
    case bulkDenied reason =>
      simp only [Server.step, Server.stepPulling]
      exact failWith_stands ..
  | @pushes fewer rpc region rest reply writes waits said few =>
    refine ⟨fewer, rfl, ?_⟩
    rw [waits] at awaited ⊢
    cases answer <;> simp only [Phase.Awaits] at awaited
    case bulkAck => exact proceed_stands _ rpc reply few
    case bulkDenied reason =>
      simp only [Server.step, Server.stepPushing]
      exact failWith_stands ..

theorem Stands.length_le {turn : Turn σ} {bound : Nat} (stands : turn.Stands bound)
    {answers : List Frame} (follows : turn.Follows answers) : answers.length ≤ bound := by
  induction answers generalizing turn bound with
  | nil => exact Nat.zero_le _
  | cons answer rest ih =>
    obtain ⟨awaited, later⟩ := follows
    obtain ⟨fewer, rfl, goesOn⟩ := stands.step awaited
    simpa using ih goesOn later

theorem eq_nil_of_isOver {turn : Turn σ} (ended : turn.phase.isOver = true) {answers : List Frame}
    (follows : turn.Follows answers) : answers = [] := by
  cases answers with
  | nil => rfl
  | cons answer rest =>
    have awaited := follows.1
    cases stands : turn.phase <;> simp [stands, Phase.Awaits, Phase.isOver] at awaited ended

/-- Transfers that are under way give a call up only when they come to one that panics. -/
theorem proceed_closed {server : Server σ} {rpc : Rpc} {reply : Reply} {transfers : List Transfer}
    {answers : List Frame}
    (follows : Follows ⟨server, (Phase.proceed rpc reply transfers).1,
      (Phase.proceed rpc reply transfers).2⟩ answers) :
    (last ⟨server, (Phase.proceed rpc reply transfers).1, (Phase.proceed rpc reply transfers).2⟩
        answers).phase.isClosed = true ↔ Transfer.Panics transfers answers := by
  induction transfers generalizing answers with
  | nil =>
    obtain rfl := eq_nil_of_isOver rfl follows
    simp [last, Phase.proceed, Phase.answer, Phase.isClosed, Transfer.Panics]
  | cons transfer rest ih =>
    cases transfer with
    | refuse cause =>
      obtain rfl := eq_nil_of_isOver rfl follows
      simp [last, Phase.proceed, Phase.fail, Error.breaksConnection, Phase.answer, Phase.isClosed,
        Transfer.Panics]
    | stop cause =>
      obtain rfl := eq_nil_of_isOver rfl follows
      simp [last, Phase.proceed, Phase.isClosed, Transfer.Panics]
    | push region writes =>
      cases answers with
      | nil => simp [last, Phase.proceed, Phase.isClosed, Transfer.Panics]
      | cons answer later =>
        obtain ⟨awaited, follows⟩ := follows
        simp only [Phase.proceed] at awaited follows
        cases answer <;> simp only [Phase.Awaits] at awaited
        case bulkAck => exact ih follows
        case bulkDenied reason =>
          obtain rfl := eq_nil_of_isOver rfl follows
          simp [last, Phase.proceed, Server.step, Server.stepPushing, Server.failWith, Phase.fail,
            Error.breaksConnection, Phase.answer, Phase.isClosed, Transfer.Panics]

omit [Engine σ] in
theorem Stands.asks {turn : Turn σ} {bound : Nat} (stands : turn.Stands bound) {answer : Frame}
    (awaited : turn.phase.Awaits answer) :
    ∃ ask, turn.said = some ask ∧ ask.isReply = false ∧ turn.phase.isClosed = false := by
  cases stands with
  | answered reply idle said => simp [idle, Phase.Awaits] at awaited
  | broken error closed silent breaks => simp [closed, Phase.Awaits] at awaited
  | panicked cause stopped silent => simp [stopped, Phase.Awaits] at awaited
  | pulls waits said => exact ⟨_, said, rfl, by rw [waits]; rfl⟩
  | pushes waits said few => exact ⟨_, said, rfl, by rw [waits]; rfl⟩

end Turn

end KeyDepot
