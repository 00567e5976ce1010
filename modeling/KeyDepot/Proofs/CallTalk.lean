import KeyDepot.Proofs.RegionAccess
import KeyDepot.Proofs.Talk

/-! What a call returns, by its talk. A call is settled once its talk comes to a reply on an idle
line; what it then returns depends on the reply and on what its regions have come to. -/

namespace KeyDepot

variable {σ : Type} [Engine σ]

namespace Regions

/-- The regions after transfers that are all accepted pushes. -/
def accept? : List Transfer → Regions → Option Regions
  | [], regions => some regions
  | .push region writes :: rest, regions =>
    match regions.push region writes with
    | .ok regions => accept? rest regions
    | .error _ => none
  | _ :: _, _ => none

end Regions

theorem Phase.proceed_push (rpc : Rpc) (reply : Reply) (region : UInt64)
    (writes : List SegmentWrite) (rest : List Transfer) :
    proceed rpc reply (.push region writes :: rest) =
      (pushing rpc region rest reply, some (.bulkPush region writes)) := rfl

/-- What both sides say for a transfer that is accepted. -/
def Transfer.frames : Transfer → List Frame
  | .push region writes => [.bulkPush region writes, .bulkAck]
  | _ => []

namespace Turn

theorem talk_answer (server : Server σ) (reply : Reply) (regions : Regions) {patience : Nat}
    (enough : 0 < patience) :
    (⟨server, (Phase.answer reply).1, (Phase.answer reply).2⟩ : Turn σ).talk regions patience =
      { frames := [.reply reply], reply := some reply, regions
        last := ⟨server, .idle, some (.reply reply)⟩ } := by
  obtain ⟨patience, rfl⟩ := Nat.exists_eq_succ_of_ne_zero (Nat.ne_of_gt enough)
  simp [talk, Phase.answer]

/-- A turn that begins with transfers goes through them, one push and one confirmation after the
other, up to the reply. -/
theorem talk_proceed (server : Server σ) (rpc : Rpc) (reply : Reply) {transfers : List Transfer}
    {regions after : Regions} (accepted : regions.accept? transfers = some after)
    {patience : Nat} (enough : transfers.length < patience) :
    (⟨server, (Phase.proceed rpc reply transfers).1, (Phase.proceed rpc reply transfers).2⟩ :
        Turn σ).talk regions patience =
      { frames := transfers.flatMap Transfer.frames ++ [.reply reply], reply := some reply
        regions := after, last := ⟨server, .idle, some (.reply reply)⟩ } := by
  induction transfers generalizing regions patience with
  | nil =>
    obtain rfl := Option.some.inj accepted
    exact talk_answer server reply regions enough
  | cons transfer rest ih =>
    cases transfer with
    | refuse cause => cases accepted
    | stop cause => cases accepted
    | push region writes =>
      obtain ⟨patience, rfl⟩ := Nat.exists_eq_succ_of_ne_zero (Nat.ne_zero_of_lt enough)
      simp only [Regions.accept?] at accepted
      cases pushed : regions.push region writes with
      | error fault => simp [pushed] at accepted
      | ok changed =>
        simp only [pushed] at accepted
        have shorter : rest.length < patience := by simpa using enough
        have later := ih accepted shorter
        simp only [Phase.proceed_push, talk, Regions.answer?, pushed, Server.step,
          Server.stepPushing, later]
        rfl

end Turn

namespace Caller

/-- The talk of a call. Nothing is said of one that has no buffers to be sent with. -/
def talk (target : UInt8) (call : Call) (caller : Caller) (server : Server σ) : Talk σ :=
  match caller.client.stage call with
  | .ok (staged, client) => server.talk target staged.request client.regions
  | .error _ => { regions := caller.client.regions, last := ⟨server, .idle, none⟩ }

theorem talk_staged {target : UInt8} {call : Call} {caller : Caller} {server : Server σ}
    {staged : Staged} {client : Client}
    (prepared : caller.client.stage call = .ok (staged, client)) :
    caller.talk target call server = server.talk target staged.request client.regions := by
  simp only [talk, prepared]

theorem staged_of_replied {target : UInt8} {call : Call} {caller : Caller} {server : Server σ}
    {reply : Reply} (replied : (caller.talk target call server).reply = some reply) :
    ∃ staged client, caller.client.stage call = .ok (staged, client) := by
  simp only [talk] at replied
  split at replied
  · exact ⟨_, _, ‹_›⟩
  · cases replied

/-- The talk of a call comes to this reply and leaves the line idle, and the regions of the call,
the only ones there are, come to these grants. -/
structure Settles (target : UInt8) (call : Call) (caller : Caller) (server : Server σ)
    (reply : Reply) (grants : List Grant) : Prop where
  replied : (caller.talk target call server).reply = some reply
  idle : (caller.talk target call server).last.phase = .idle
  continues : server.Continues (caller.talk target call server).last.server
  staged : ∃ request client,
    caller.client.stage call = .ok (⟨request, grants.map Grant.id⟩, client) ∧
      client.settings = caller.client.settings
  distinct : (grants.map Grant.id).Nodup
  held : ∀ grant ∈ grants,
    (caller.talk target call server).regions.Holds grant.id grant.access grant.contents
  only : ∀ id ∈ (caller.talk target call server).regions.ids, id ∈ grants.map Grant.id

omit [Engine σ] in
theorem Ready.of_client {active : Nat} {caller : Caller} {server : Server σ}
    (ready : caller.Ready active server) (client : Client) :
    ({ caller with client } : Caller).Ready active server :=
  ⟨ready.quiet, ready.running, ready.served⟩

omit [Engine σ] in
/-- A caller that has put its line back in front is ready for the next call. -/
theorem Ready.after {active : Nat} {caller after : Caller} {server later : Server σ}
    (ready : caller.Ready active server) (continues : server.Continues later)
    (idle : after.idle = Line.quiet .idle :: caller.idle.tail) (others : Nat) :
    after.Ready others later := by
  refine ⟨?_, continues.stopped.trans ready.running, by simp [idle]⟩
  intro line member
  rw [idle] at member
  rcases List.mem_cons.mp member with rfl | kept
  · rfl
  · exact ready.quiet line (List.mem_of_mem_tail kept)

/-- What a settled call returns when every frame of its talk can be written, and where it leaves the
caller. -/
theorem call_settles {active : Nat} {target : UInt8} {call : Call} {caller : Caller}
    {server : Server σ} {reply : Reply} {grants : List Grant} {returned : Returned call}
    (ready : caller.Ready active server) (used : call.misuse? = none)
    (settles : caller.Settles target call server reply grants)
    (read : call.readReply (grants.map Grant.contents) reply = .ok returned)
    (writable : ∀ frame ∈ (caller.talk target call server).frames, frame.Writable) :
    ∃ after, caller.call .steady active target call server =
        some ⟨returned, after, (caller.talk target call server).last.server⟩ ∧
      after.idle = Line.quiet .idle :: caller.idle.tail ∧ after.client.regions.ids = [] ∧
      after.client.settings = caller.client.settings := by
  obtain ⟨request, client, staged, settings⟩ := settles.staged
  obtain ⟨replied, stands, -, -, distinct, held, only⟩ := settles
  simp only [talk_staged staged] at replied stands held only writable ⊢
  have exchanged := exchange_talk (ready.of_client client) replied writable
  obtain ⟨after, concluded, clear, kept⟩ := Client.conclude_reply
    { client with regions := (server.talk target request client.regions).regions }
    distinct held only call reply
  refine ⟨{ client := after, peer := caller.peer, idle := Line.quiet .idle :: caller.idle.tail },
    ?_, rfl, clear, kept.trans settings⟩
  rw [read] at concluded
  simp only [Caller.call, fate, used, staged, exchanged, concluded, stands, Fate.returned?]

/-- A call that would be settled fails when some frame of its talk cannot be written. -/
theorem call_fails {active : Nat} {target : UInt8} {call : Call} {caller : Caller}
    {server : Server σ} {reply : Reply} (ready : caller.Ready active server)
    (used : call.misuse? = none)
    (replied : (caller.talk target call server).reply = some reply)
    (large : ¬ ∀ frame ∈ (caller.talk target call server).frames, frame.Writable) :
    ∃ visit error, caller.call .steady active target call server = some visit ∧
      visit.returned.outcome = .error error := by
  obtain ⟨frame, refused⟩ := Classical.not_forall.mp large
  obtain ⟨staged, client, prepared⟩ := staged_of_replied replied
  rw [talk_staged prepared] at replied refused
  obtain ⟨error, failed⟩ := exchange_fails (ready.of_client client) replied
    ⟨frame, Classical.not_imp.mp refused⟩
  simp only [Caller.call, fate, used, prepared]
  cases course : ({ caller with client } : Caller).exchange .steady active target staged.request
      server with
  | mk result rest =>
    rw [course] at failed
    obtain rfl : result = some (.error error) := failed
    exact ⟨_, error, rfl, rfl⟩

end Caller

end KeyDepot
