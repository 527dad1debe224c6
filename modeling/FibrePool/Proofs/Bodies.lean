import FibrePool.Http.Answer
import FibrePool.Proofs.Confined
import FibrePool.Proofs.TemplatesSound

/-!
# Bodies of requests

Eight endpoints of the web interface take a body, and no other looks at it (`Resource.Takes`).  When
a body cannot be read, because it is not said to be JSON, is no JSON or is the JSON of something
else, seven of them answer at once and blame the client, and nothing else happens.

The eighth asks for a connector, which needs no body.  There a body that cannot be read counts as
none at all, so the request is carried out as if it had no options.  As a connector without options
is only looked up, the tables and the systems around are left alone in any case
(`malformed_bodies_never_act`); but the client is told that all went well, and the look-up is
counted (`malformed_connector_body_counts`).
-/

namespace FibrePool

set_option autoImplicit false

open Json (Reading)
open Workflow

/-! ## Looking a connector up -/

section

variable {allowed : (β : Type) → Transaction β → Prop}

theorem Pool.resolve_confined (template provider : Option String) :
    (resolve template provider).Confined allowed := by
  unfold resolve
  split
  · exact (confined_askFor _).bind fun _ => confined_pure _
  · extract_lets fallback
    have falling (bound : Option String) : (fallback bound).Confined allowed := by
      unfold fallback
      cases bound with
      | some id => exact confined_pure id
      | none =>
        refine (confined_ask _).bind fun default => ?_
        cases default with
        | some id => exact confined_pure id
        | none => exact confined_ofOutcome _
    split
    · exact (confined_ask _).bind falling
    · exact (confined_pure _).bind falling

theorem Pool.held_confined (assigner template : String) :
    (held assigner template).Confined allowed := by
  refine (confined_askFor _).bind fun paths => ?_
  refine Confined.bind (confined_mapM fun ids => ?_) fun found => confined_pure _
  exact (confined_ask _).bind fun records => confined_pure _

/-- A connector without a reservation is only looked up. -/
theorem Volume.connector_confined (settings : OperatorSettings) {request : ConnectorRequest}
    (lookup : request.reserve = false) : (connector settings request).Confined allowed := by
  unfold connector
  refine (confined_ofOutcome _).bind fun assigner => Confined.holding ?_ _
  dsimp only
  split
  · next reserves => simp [lookup] at reserves
  · refine ((Pool.resolve_confined _ _).adapt _).bind fun template => ?_
    exact (Pool.held_confined assigner template).bind fun records => confined_pure _

/-- What is done for the response to a confined action is confined. -/
theorem Plan.confined_acting {settings : OperatorSettings} {action : Action}
    (confined : (Volume.run settings action).Confined allowed) (status : OperatorStatus)
    (metrics : Metrics) : ((acting action).program settings status metrics).Confined allowed :=
  Program.Confined.bind (Volume.confined_dispatch confined) fun _ => .done _

end

/-! ## Readings that turn a request down -/

section

variable {α β : Type} {request : Request} {read : Json → Reading α} {status : Rejection}

/-- The reading ends in a status that blames the client. -/
def TurnsDown (reading : Except Rejection α) : Prop :=
  ∃ status, reading = .error status ∧ 400 ≤ status ∧ status < 500

theorem TurnsDown.bind {reading : Except Rejection β} (down : TurnsDown reading)
    (next : β → Except Rejection α) : TurnsDown (reading >>= next) := by
  obtain ⟨status, rfl, blames⟩ := down
  exact ⟨status, rfl, blames⟩

/-- A segment of the path that cannot be read is a reason of its own to turn a request down. -/
theorem turnsDown_segment_bind (raw : List Char) {next : String → Except Rejection α}
    (down : ∀ text, TurnsDown (next text)) : TurnsDown (Request.segment raw >>= next) := by
  cases named : Request.segment raw with
  | ok text => exact down text
  | error status =>
    unfold Request.segment at named
    split at named
    · cases named
    · cases named
      exact ⟨400, rfl, by decide⟩

/-- The body is not said to be JSON, or there is a fault in it. -/
def Request.Malformed (request : Request) (read : Json → Reading α) : Prop :=
  request.isJson = false ∨ ∃ fault, read (Json.ofFront request.body) = .error fault

/-- A body is malformed where it cannot be read. -/
theorem Request.malformed_iff :
    request.Malformed read ↔ ∃ status, request.readBody read = .error status := by
  unfold Malformed readBody
  cases request.isJson with
  | false => simp
  | true =>
    cases read (Json.ofFront request.body) with
    | ok value => simp
    | error fault => cases fault <;> simp

/-- A malformed body is turned down. -/
theorem Request.Malformed.turnsDown (malformed : request.Malformed read) :
    TurnsDown (request.readBody read) := by
  obtain ⟨status, failed⟩ := malformed_iff.1 malformed
  refine ⟨status, failed, ?_⟩
  unfold readBody at failed
  split at failed
  · split at failed
    · cases failed
    · cases failed
      decide
    · cases failed
      decide
  · cases failed
    decide

end

/-! ## Endpoints that take a body -/

namespace Resource

/-- The endpoint takes a body, which is read in this way. -/
inductive Takes : Resource → String → {α : Type} → (Json → Reading α) → Prop
  | attach : Takes .attach "POST" VolumeConnection.ofJson
  | detach : Takes .detach "POST" VolumeConnection.ofJson
  | connector (raw : List Char) (assigner : String) :
    Takes (.connector raw) "POST" (ConnectorRequest.ofOptions assigner)
  | create : Takes .templates "POST" NewTemplate.ofJson
  | edit (raw : List Char) : Takes (.template raw) "PUT" TemplateEdit.ofJson
  | reserve (raw : List Char) : Takes (.reserve raw) "POST" assignerOfJson
  | unreserve (raw : List Char) : Takes (.unreserve raw) "POST" assignerOfJson
  | overwrite (raw : List Char) : Takes (.usage raw) "PUT" Usage.ofJson

variable {resource : Resource} {method : String} {request : Request} {α : Type}
  {read : Json → Reading α}

/-- Endpoints that take no body do not look at it. -/
theorem takes_or_ignores (resource : Resource) (method : String) (request : Request) :
    (∃ (α : Type) (read : Json → Reading α), resource.Takes method read) ∨
      ∀ contentType body, Plan.ofResource? { request with contentType, body } resource method =
        Plan.ofResource? request resource method := by
  fun_cases Plan.ofResource? request resource method with
  | case1 => exact .inl ⟨_, _, .attach⟩
  | case2 => exact .inl ⟨_, _, .detach⟩
  | case3 raw => exact .inl ⟨_, _, .connector raw ""⟩
  | case5 => exact .inl ⟨_, _, .create⟩
  | case8 raw => exact .inl ⟨_, _, .edit raw⟩
  | case10 raw => exact .inl ⟨_, _, .reserve raw⟩
  | case11 raw => exact .inl ⟨_, _, .unreserve raw⟩
  | case14 raw => exact .inl ⟨_, _, .overwrite raw⟩
  | case18 =>
    refine .inr fun _ _ => ?_
    rw [Plan.ofResource?] <;> assumption
  | _ => exact .inr fun _ _ => rfl

theorem Takes.options {raw : List Char} (takes : (Resource.connector raw).Takes method read) :
    (Resource.connector raw).Takes method (ConnectorRequest.ofOptions "") := by
  cases takes with
  | connector _ guest => exact .connector raw ""

/-- Where a body is needed, one that is malformed turns the request down. -/
theorem Takes.turnsDown (takes : resource.Takes method read) (malformed : request.Malformed read)
    (needs : ∀ raw, resource ≠ .connector raw) :
    ∃ reading, Plan.ofResource? request resource method = some reading ∧ TurnsDown reading := by
  have down := malformed.turnsDown
  cases takes with
  | attach => exact ⟨_, rfl, down.bind _⟩
  | detach => exact ⟨_, rfl, down.bind _⟩
  | connector raw assigner => exact absurd rfl (needs raw)
  | create => exact ⟨_, rfl, down.bind _⟩
  | edit raw => exact ⟨_, rfl, turnsDown_segment_bind raw fun id => down.bind _⟩
  | reserve raw => exact ⟨_, rfl, turnsDown_segment_bind raw fun id => down.bind _⟩
  | unreserve raw => exact ⟨_, rfl, turnsDown_segment_bind raw fun id => down.bind _⟩
  | overwrite raw => exact ⟨_, rfl, turnsDown_segment_bind raw fun id => down.bind _⟩

end Resource

/-! ## Connectors -/

/-- The options of a connector are read in the same way for all guests. -/
theorem ConnectorRequest.ofOptions_eq_map (assigner other : String) (value : Json) :
    ofOptions assigner value =
      (fun request => { request with assigner }) <$> ofOptions other value := by
  simp [ofOptions, ofRow, map_bind]

theorem Request.Malformed.options {request : Request} {assigner : String}
    (malformed : request.Malformed (ConnectorRequest.ofOptions assigner)) (other : String) :
    request.Malformed (ConnectorRequest.ofOptions other) := by
  refine malformed.imp_right fun ⟨fault, failed⟩ => ⟨fault, ?_⟩
  rw [ConnectorRequest.ofOptions_eq_map assigner other] at failed
  cases read : ConnectorRequest.ofOptions other (Json.ofFront request.body) with
  | ok options =>
    rw [read] at failed
    cases failed
  | error fault =>
    rw [read] at failed
    exact failed

/-- The same request without a body. -/
def Request.withoutBody (request : Request) : Request :=
  { request with contentType := none, body := [] }

namespace Plan

/-- Options that cannot be read are no options. -/
theorem connectorOptions_of_malformed {request : Request} {guest : String}
    (malformed : request.Malformed (ConnectorRequest.ofOptions guest)) (assigner : String) :
    connectorOptions request assigner = { assigner } := by
  obtain ⟨status, failed⟩ := Request.malformed_iff.1 (malformed.options assigner)
  rw [connectorOptions, failed]

theorem ofRequest_eq {request : Request} {resource : Resource} {reading : Except Rejection Plan}
    (found : Resource.find? request.path = some resource)
    (planned : ofResource? request resource request.method = some reading) :
    ofRequest request = ofReading reading := by
  unfold ofRequest
  rw [found]
  dsimp only
  rw [planned]

/-- A connector that is asked for with a body that cannot be read is looked up without options. -/
theorem ofRequest_connector {request : Request} {raw : List Char} {α : Type}
    {read : Json → Reading α} (found : Resource.find? request.path = some (.connector raw))
    (takes : (Resource.connector raw).Takes request.method read)
    (malformed : request.Malformed read) :
    ofRequest request = ofReading do
      let assigner ← Request.segment raw
      return acting (.connector { assigner }) := by
  generalize named : request.method = method at takes
  cases takes with
  | connector _ guest =>
    have planned : ofResource? request (.connector raw) request.method = some do
        let assigner ← Request.segment raw
        return acting (.connector (connectorOptions request assigner)) := by
      rw [named]
      rfl
    rw [ofRequest_eq found planned]
    simp only [connectorOptions_of_malformed malformed]

end Plan

/-! ## Malformed bodies -/

/-- **A malformed body never acts.**  Whatever is asked for with it and in whatever state, the
tables are not changed and no other system is called.  The request is turned down at once with a
status that blames the client, and nothing is counted, except where a connector is asked for: there
the answer is that to the same request without a body. -/
theorem malformed_bodies_never_act {A : Type} (scheduler : Scheduler A)
    (settings : OperatorSettings) {request : Request} {resource : Resource} {α : Type}
    {read : Json → Reading α} (found : Resource.find? request.path = some resource)
    (takes : resource.Takes request.method read) (malformed : request.Malformed read) :
    (∀ rest, (scheduler.answering settings request).Reaches rest → rest.acts = false) ∧
    ((∃ status, 400 ≤ status ∧ status < 500 ∧
        scheduler.answering settings request = .done ⟨status, none⟩) ∨
      (∃ raw, resource = .connector raw) ∧
        scheduler.answering settings request =
          scheduler.answering settings request.withoutBody) := by
  by_cases optional : ∃ raw, resource = .connector raw
  · obtain ⟨raw, rfl⟩ := optional
    have planned := Plan.ofRequest_connector found takes malformed
    have alike : Plan.ofRequest request = Plan.ofRequest request.withoutBody := by
      have bare : request.withoutBody.Malformed (ConnectorRequest.ofOptions "") := .inl rfl
      have same : Resource.find? request.withoutBody.path = some (.connector raw) := found
      exact planned.trans (Plan.ofRequest_connector same takes.options bare).symm
    refine ⟨fun rest reaches => (Program.Confined.of_reaches ?_ reaches).acts_eq_false,
      .inr ⟨⟨raw, rfl⟩, ?_⟩⟩
    · rw [Scheduler.answering, planned]
      cases Request.segment raw with
      | error status => exact .done _
      | ok assigner =>
        have lookup : (Volume.run settings (.connector { assigner })).Confined
            fun _ _ => False := (Volume.connector_confined settings rfl).map _
        exact Plan.confined_acting lookup _ _
    · rw [Scheduler.answering, Scheduler.answering, alike]
  · obtain ⟨reading, planned, status, rfl, blames⟩ :=
      takes.turnsDown malformed (not_exists.1 optional)
    have done : scheduler.answering settings request = .done ⟨status, none⟩ := by
      rw [Scheduler.answering, Plan.ofRequest_eq found planned]
      rfl
    refine ⟨fun rest reaches => (Program.Confined.of_reaches ?_ reaches).acts_eq_false,
      .inl ⟨status, blames.1, blames.2, done⟩⟩
    rw [done]
    exact .done _

namespace Sample

/-- A request with a body that is said to be JSON. -/
def posted (path body : String) : Request where
  method := "POST"
  path := path.toList
  query := []
  contentType := some "application/json"
  body := Text.Utf8.encode body.toList

/-- An attach whose body breaks off. -/
def brokenAttach : Request := posted "/v1/volumes/attach" "\x7b\"assignerId\":"

/-- A connector asked for with a word where a truth value belongs. -/
def garbledConnector : Request := posted "/v1/connectors/user1" "\x7b\"reserve\": \"true\"\x7d"

/-- The web interface where there is a default template. -/
def web : Scheduler Response where
  store := defaulted.store
  stamps := idle.stamps

end Sample

/-- An attach whose body breaks off is turned down. -/
theorem malformed_bodies_never_act_on_attach :
    Sample.brokenAttach.Malformed VolumeConnection.ofJson ∧
      ∃ status, 400 ≤ status ∧ status < 500 ∧
        Sample.web.answering Sample.settings Sample.brokenAttach = .done ⟨status, none⟩ := by
  have found : Resource.find? Sample.brokenAttach.path = some .attach := by decide +kernel
  have malformed : Sample.brokenAttach.Malformed VolumeConnection.ofJson :=
    .inr ⟨.broken, by decide +kernel⟩
  obtain ⟨_, turned | ⟨⟨_, optional⟩, _⟩⟩ :=
    malformed_bodies_never_act Sample.web Sample.settings found .attach malformed
  · exact ⟨malformed, turned⟩
  · cases optional

/-- The web interface after it has answered the connector. -/
def Sample.answered : Scheduler Response :=
  (Sample.web.start (Sample.web.answering Sample.settings Sample.garbledConnector)).2.settle 20

/-- **A connector asked for with a malformed body is looked up**, and the client is told that all
went well. -/
theorem malformed_connector_body_counts :
    Resource.find? Sample.garbledConnector.path = some (.connector "user1".toList) ∧
      Sample.garbledConnector.body ≠ [] ∧
      Sample.garbledConnector.Malformed (ConnectorRequest.ofOptions "user1") ∧
      Sample.web.metrics.operationCount "get_volume_connector" "success" = 0 ∧
      (Sample.answered.result? Sample.web.nextTicket).map (·.status) = some 200 ∧
      Sample.answered.metrics.operationCount "get_volume_connector" "success" = 1 := by
  refine ⟨by decide +kernel, by decide +kernel, .inr ⟨.unfit, by decide +kernel⟩, ?_⟩
  decide +kernel

end FibrePool
