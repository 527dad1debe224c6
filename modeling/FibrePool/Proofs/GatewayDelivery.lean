import FibrePool.Proofs.GatewayPaths

/-!
# Delivery of calls to a gateway

A server answers with the answers that it has left, whoever asks.  A change takes the first of them,
whatever its status.  A read takes the answers at the front that report trouble, and the first other
one, which alone decides what comes of it.

`Gateway.run_eq` says so of one call, and `Gateway.calls_are_delivered` of every call in a sequence:
what earlier calls took is gone, and nothing else is left of them.  Answers have no headers, so none
of them sends a client somewhere else.
-/

namespace FibrePool

set_option autoImplicit false

namespace Gateway

/-! ## What is said of a call -/

/-- An answer that reports trouble of the server. -/
def isTrouble (answer : GatewayAnswer) : Bool := 500 ≤ answer.status

/-- How often a call is sent to a server that has these answers left: a read once more than there
are troubles at the front, a change once. -/
def attempts (call : Call) (answers : List GatewayAnswer) : Nat :=
  match call with
  | .listDevices _ | .guestExists _ => (answers.takeWhile isTrouble).length + 1
  | .dedicate _ _ | .undedicate _ _ | .configureAttach _ | .configureDetach _ => 1

/-- The answer that decides what comes of a call: for a read the first one that is no trouble, for a
change the first one. -/
def decisive (call : Call) (answers : List GatewayAnswer) : GatewayAnswer :=
  match call with
  | .listDevices _ | .guestExists _ => ((answers.dropWhile isTrouble).head?).getD {}
  | .dedicate _ _ | .undedicate _ _ | .configureAttach _ | .configureDetach _ =>
    answers.head?.getD {}

/-- The status of a success. -/
def Succeeds (answer : GatewayAnswer) : Prop := 200 ≤ answer.status ∧ answer.status < 300

/-- What an answer from an address says of a call. -/
inductive Tells (address : String) (answer : GatewayAnswer) :
    (call : Call) → Outcome call.Answer → Prop where
  | listed {target : String} (done : Succeeds answer) :
    Tells address answer (.listDevices target) (.ok answer.body)
  | present {user : String} (done : Succeeds answer) :
    Tells address answer (.guestExists user) (.ok true)
  | absent {user : String} (missing : answer.status = 404) :
    Tells address answer (.guestExists user) (.ok false)
  | dedicated {device : DeviceId} {user : String} (done : Succeeds answer) :
    Tells address answer (.dedicate device user) (.ok ())
  | undedicated {device : DeviceId} {user : String} (done : Succeeds answer) :
    Tells address answer (.undedicate device user) (.ok ())
  | attached {volume : GuestVolume} (done : Succeeds answer) :
    Tells address answer (.configureAttach volume) (.ok ())
  | detached {removal : GuestRemoval} (done : Succeeds answer) :
    Tells address answer (.configureDetach removal) (.ok ())
  | refused {call : Call} (failed : ¬ Succeeds answer)
    (other : answer.status = 404 → ∀ user, call ≠ .guestExists user) :
    Tells address answer call (.error (.gatewayStatus address answer.status answer.body))

variable {gateway : Gateway} {call : Call} {server : GatewayServer} {answer : GatewayAnswer}
  {request : GatewayRequest}

theorem isSuccess_iff : isSuccess answer.status = true ↔ Succeeds answer := by
  rw [isSuccess, Bool.and_eq_true, decide_eq_true_iff, decide_eq_true_iff, Succeeds]

theorem tells_reading (request : GatewayRequest) (answer : GatewayAnswer) (call : Call) :
    Tells request.address answer call (reading request answer call) := by
  by_cases done : Succeeds answer
  · have success := isSuccess_iff.2 done
    have here : answer.status ≠ 404 := fun missing => by
      have below := done.2
      omega
    cases call <;> simp only [reading, success, here, if_true, if_false]
    case listDevices => exact .listed done
    case guestExists => exact .present done
    case dedicate => exact .dedicated done
    case undedicate => exact .undedicated done
    case configureAttach => exact .attached done
    case configureDetach => exact .detached done
  · have failure : ¬ isSuccess answer.status = true := isSuccess_iff.not.2 done
    cases call
    case guestExists user =>
      by_cases missing : answer.status = 404
      · rw [reading, if_pos missing]
        exact .absent missing
      · rw [reading, if_neg missing, if_neg failure]
        exact .refused done fun same => absurd same missing
    all_goals
      rw [reading, if_neg failure]
      exact .refused done fun _ _ => Call.noConfusion

/-- An answer says one thing of a call. -/
theorem Tells.eq_reading {outcome : Outcome call.Answer}
    (tells : Tells request.address answer call outcome) :
    outcome = reading request answer call := by
  cases tells with
  | listed done | dedicated done | undedicated done | attached done | detached done =>
    rw [reading, if_pos (isSuccess_iff.2 done)]
  | present done =>
    have below := done.2
    rw [reading, if_neg (by omega), if_pos (isSuccess_iff.2 done)]
  | absent missing => rw [reading, if_pos missing]
  | refused failed other =>
    have failure := isSuccess_iff.not.2 failed
    cases call
    case guestExists user =>
      rw [reading, if_neg fun missing => other missing user rfl, if_neg failure]
      rfl
    all_goals
      rw [reading, if_neg failure]
      rfl

/-- An outcome may be better next time exactly when the answer reports trouble. -/
theorem Tells.isTransient {address : String} {outcome : Outcome call.Answer}
    (tells : Tells address answer call outcome) :
    Gateway.isTransient outcome = isTrouble answer := by
  have calm (below : answer.status < 500) : false = isTrouble answer :=
    (decide_eq_false below.not_ge).symm
  cases tells with
  | listed done | present done | dedicated done | undedicated done | attached done
  | detached done => exact calm (done.2.trans (by decide))
  | absent missing => exact calm (missing ▸ by decide)
  | refused failed other => rfl

theorem isTransient_reading :
    Gateway.isTransient (reading request answer call) = isTrouble answer :=
  (tells_reading request answer call).isTransient

/-! ## One call -/

end Gateway

namespace GatewayServer

/-- The server after it has seen the same request so often. -/
def after (server : GatewayServer) (request : GatewayRequest) (times : Nat) : GatewayServer :=
  { server with
    answers := server.answers.drop times, seen := server.seen ++ List.replicate times request }

variable {server : GatewayServer} {request : GatewayRequest} {times : Nat}

@[simp] theorem isUp_after : (server.after request times).isUp = server.isUp := rfl

@[simp] theorem answers_after :
    (server.after request times).answers = server.answers.drop times := rfl

@[simp] theorem after_after {more : Nat} :
    (server.after request times).after request more = server.after request (times + more) := by
  simp only [after, List.drop_drop, List.append_assoc, List.replicate_append_replicate]

theorem send_eq (up : server.isUp = true) :
    server.send request = (some (server.answers.head?.getD {}), server.after request 1) :=
  if_pos up

end GatewayServer

namespace Gateway

variable {gateway : Gateway} {call : Call} {server : GatewayServer}

theorem runOnce_eq (up : server.isUp = true)
    (sendable : (gateway.request call).isSendable = true) :
    gateway.runOnce call server =
      (reading (gateway.request call) (server.answers.head?.getD {}) call,
        server.after (gateway.request call) 1) := by
  rw [runOnce, if_pos sendable, GatewayServer.send_eq up]

/-- **A call that is sent again while there is trouble** takes the troubles at the front and the
answer behind them. -/
theorem runAgain_eq {tries : Nat} (up : server.isUp = true)
    (sendable : (gateway.request call).isSendable = true) (enough : server.answers.length ≤ tries) :
    gateway.runAgain call server tries =
      (reading (gateway.request call) (((server.answers.dropWhile isTrouble).head?).getD {}) call,
        server.after (gateway.request call) ((server.answers.takeWhile isTrouble).length + 1)) := by
  -- the induction is on the tries; each takes one of the answers
  induction tries generalizing server with
  | zero =>
    obtain none := List.length_eq_zero_iff.1 (Nat.le_zero.1 enough)
    rw [runAgain, runOnce_eq up sendable, none]
    rfl
  | succ tries ih =>
    rw [runAgain, runOnce_eq up sendable]
    dsimp only
    rw [isTransient_reading]
    cases left : server.answers with
    | nil => rfl
    | cons answer rest =>
      rw [List.head?_cons, Option.getD_some]
      cases trouble : isTrouble answer with
      | false => simp [trouble]
      | true =>
        have fewer : (server.after (gateway.request call) 1).answers.length ≤ tries := by
          rw [left, List.length_cons] at enough
          simpa [left] using enough
        rw [if_pos rfl, ih (GatewayServer.isUp_after.trans up) fewer]
        simp [left, trouble, Nat.add_comm]

theorem run_of_isRead (retries : gateway.retries = true) (read : isRead call = true) :
    gateway.run call server = gateway.runAgain call server server.answers.length := by
  rw [run, retries, read]
  exact if_pos rfl

theorem run_of_not_isRead (change : isRead call = false) :
    gateway.run call server = gateway.runOnce call server := by
  rw [run, change, Bool.and_false]
  exact if_neg Bool.false_ne_true

/-- **What a call does to a server**, and what comes of it. -/
theorem run_eq (retries : gateway.retries = true) (up : server.isUp = true)
    (sendable : (gateway.request call).isSendable = true) :
    gateway.run call server =
      (reading (gateway.request call) (decisive call server.answers) call,
        server.after (gateway.request call) (attempts call server.answers)) := by
  cases call with
  | listDevices target | guestExists user =>
    rw [run_of_isRead retries rfl, runAgain_eq up sendable le_rfl, decisive, attempts]
  | dedicate device user | undedicate device user | configureAttach volume
  | configureDetach removal =>
    rw [run_of_not_isRead rfl, runOnce_eq up sendable, decisive, attempts]

/-! ## Sequences of calls -/

/-- A call with what came of it. -/
structure Reply where
  call : Call
  outcome : Outcome call.Answer

/-- Carries out calls one after the other. -/
def runAll (gateway : Gateway) : List Call → GatewayServer → List Reply × GatewayServer
  | [], server => ([], server)
  | call :: calls, server =>
    let (outcome, server) := gateway.run call server
    let (replies, server) := gateway.runAll calls server
    (⟨call, outcome⟩ :: replies, server)

/-- The requests of calls can be sent. -/
def Sends (gateway : Gateway) (calls : List Call) : Prop :=
  ∀ call ∈ calls, (gateway.request call).isSendable = true

/-- **Every call can be sent below an endpoint of HTTP.** -/
theorem sends_of_endpoint {url : Url} (parsed : Url.parse gateway.endpoint = .ok url)
    (http : url.isHttp = true) (plain : ∀ c ∈ gateway.endpoint.toList, c ≠ '?' ∧ c ≠ '#')
    (shown : gateway.EndsVisibly)
    (header : (gateway.token.getD "").toList.all isHeaderChar = true) (calls : List Call) :
    gateway.Sends calls := by
  intro call _
  obtain ⟨word, chars, count, front, named, filled, marks, visible⟩ :=
    exists_front parsed http plain
  have special := Url.isSpecial_of_isHttp http
  have counts : Url.significant (gateway.address (namesOf call)) =
      word ++ ':' :: (chars ++ Url.pathText (segmentsOf call)) := by
    rw [significant_address, front, List.append_assoc, List.cons_append]
  have address := Url.parse_append counts named special filled marks (isTail_pathText call)
  rw [Url.parse_append (visible shown) named special filled marks (Url.isTail_replicate count)]
    at parsed
  have target : (gateway.request call).target.isSome = true := by
    rw [target_of_parse (gateway.request call) http address]
    generalize Url.placeOf url.scheme ((Url.behind chars).takeWhile Url.inAuthority) = place
      at parsed
    cases place with
    | error fault => cases parsed
    | ok place => rfl
  have authorization :
      ((gateway.request call).authorization.getD "").toList.all isHeaderChar = true := by
    rw [request]
    cases given : gateway.token with
    | none => rfl
    | some token =>
      rw [given, Option.getD_some] at header
      rw [Option.map_some, Option.getD_some, String.toList_append, List.all_append, header]
      decide
  rw [GatewayRequest.isSendable, target, authorization]
  rfl

theorem runAll_append (calls others : List Call) :
    gateway.runAll (calls ++ others) server =
      ((gateway.runAll calls server).1 ++ (gateway.runAll others (gateway.runAll calls server).2).1,
        (gateway.runAll others (gateway.runAll calls server).2).2) := by
  induction calls generalizing server with
  | nil => rfl
  | cons call calls ih => simp only [List.cons_append, runAll, ih]

theorem length_runAll (gateway : Gateway) (calls : List Call) (server : GatewayServer) :
    (gateway.runAll calls server).1.length = calls.length := by
  induction calls generalizing server with
  | nil => rfl
  | cons call calls ih => simp only [runAll, List.length_cons, ih]

theorem isUp_runAll {calls : List Call} (retries : gateway.retries = true)
    (up : server.isUp = true) (sends : gateway.Sends calls) :
    (gateway.runAll calls server).2.isUp = true := by
  induction calls generalizing server with
  | nil => exact up
  | cons call calls ih =>
    obtain ⟨first, others⟩ := List.forall_mem_cons.1 sends
    rw [runAll, run_eq retries up first]
    exact ih up others

/-- A call met a server and left it as another, with an outcome. -/
structure Delivery (gateway : Gateway) (call : Call) (met left : GatewayServer)
    (outcome : Outcome call.Answer) : Prop where
  seen : left.seen =
    met.seen ++ List.replicate (attempts call met.answers) (gateway.request call)
  answers : left.answers = met.answers.drop (attempts call met.answers)
  told : Tells (gateway.request call).address (decisive call met.answers) call outcome
  only : ∀ other : Outcome call.Answer,
    Tells (gateway.request call).address (decisive call met.answers) call other → other = outcome
  /-- Nothing but the answers that were left counts. -/
  alone : ∀ other : GatewayServer, other.isUp = true → other.answers = met.answers →
    gateway.run call other =
      (outcome, other.after (gateway.request call) (attempts call met.answers))

theorem delivery_run (retries : gateway.retries = true) (up : server.isUp = true)
    (sendable : (gateway.request call).isSendable = true) :
    Delivery gateway call server (gateway.run call server).2 (gateway.run call server).1 := by
  rw [run_eq retries up sendable]
  refine ⟨rfl, rfl, tells_reading _ _ call, fun _ => Tells.eq_reading, fun other isUp same => ?_⟩
  rw [run_eq retries isUp sendable, same]

/-- **Every call of a sequence is delivered.**  A change is sent once and takes one answer, whatever
its status; a read is sent once more than there are troubles at the front of the answers that are
left, and the first other answer alone decides what comes of it.  Earlier calls count only through
the answers that they took. -/
theorem calls_are_delivered {calls : List Call} (retries : gateway.retries = true)
    (up : server.isUp = true) (sends : gateway.Sends calls) (before : List Call) (call : Call)
    (later : List Call) (split : calls = before ++ call :: later) :
    ∃ outcome, (gateway.runAll calls server).1[before.length]? = some ⟨call, outcome⟩ ∧
      Delivery gateway call (gateway.runAll before server).2
        (gateway.runAll (before ++ [call]) server).2 outcome := by
  subst split
  obtain ⟨earlier, here, -⟩ : gateway.Sends before ∧ _ ∧ gateway.Sends later := by
    simpa [Sends, or_imp, forall_and] using sends
  have met := isUp_runAll retries up earlier
  refine ⟨(gateway.run call (gateway.runAll before server).2).1, ?_, ?_⟩
  · rw [runAll_append, ← gateway.length_runAll before server, List.getElem?_append_right le_rfl,
      Nat.sub_self]
    rfl
  · rw [runAll_append]
    exact delivery_run retries met here

/-- A gateway that tries reads again, with a token. -/
def Sample.patient : Gateway := { Sample.below with token := some "secret", retries := true }

/-- A server that is in trouble twice before it answers, and then again. -/
def Sample.ailing : GatewayServer where
  answers := [⟨503, "busy"⟩, ⟨500, ""⟩, ⟨200, "listing"⟩, ⟨503, "busy"⟩, ⟨502, ""⟩, ⟨404, ""⟩]

/-- A listing, a change and a question. -/
def Sample.calls : List Call :=
  [.listDevices "A/B", .dedicate (.ofNat 0x1a00) "user 1", .guestExists "user 1"]

/-- The change behind a listing that was in trouble takes one answer. -/
theorem calls_are_delivered_amid_trouble :
    Sample.patient.retries = true ∧ Sample.ailing.isUp = true ∧
      Sample.patient.Sends Sample.calls ∧
      ∃ outcome, (Sample.patient.runAll Sample.calls Sample.ailing).1[1]? =
          some ⟨.dedicate (.ofNat 0x1a00) "user 1", outcome⟩ ∧
        Delivery Sample.patient (.dedicate (.ofNat 0x1a00) "user 1")
          (Sample.patient.runAll [.listDevices "A/B"] Sample.ailing).2
          (Sample.patient.runAll [.listDevices "A/B", .dedicate (.ofNat 0x1a00) "user 1"]
            Sample.ailing).2 outcome := by
  have plain : ∀ c ∈ Sample.patient.endpoint.toList, c ≠ '?' ∧ c ≠ '#' := by
    simp [Sample.patient, Sample.below]
  have shown : Sample.patient.EndsVisibly := by
    intro c last
    cases last
    decide
  have parsed : Url.parse Sample.patient.endpoint = .ok Sample.place := Sample.parsed
  have header : (Sample.patient.token.getD "").toList.all isHeaderChar = true := by decide
  have sends : Sample.patient.Sends Sample.calls :=
    sends_of_endpoint parsed rfl plain shown header Sample.calls
  exact ⟨rfl, rfl, sends, calls_are_delivered rfl rfl sends [.listDevices "A/B"]
    (.dedicate (.ofNat 0x1a00) "user 1") [.guestExists "user 1"] rfl⟩

end Gateway

end FibrePool
