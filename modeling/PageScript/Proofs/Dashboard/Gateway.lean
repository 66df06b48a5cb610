import Mathlib.Data.List.Nodup
import PageScript.Dashboard.Server
import PageScript.Proofs.Dashboard.Payload
import PageScript.Proofs.Text.Bytes

/-! What the dashboard relies on a gateway for (`Gateway.Lawful`), and which requests are accepted
then: those that are posted to the path of control with a body that names an action. -/
namespace PageScript.Dashboard

namespace Gateway

variable {α : Type} {gateway : Gateway α}

/-! ### Laws -/

/-- The text that the body of a request says, when that is whole and not too long. -/
def Carries (gateway : Gateway α) (request : α) (cs : List Char) : Prop :=
  ∃ bytes, gateway.body request = some bytes ∧ bytes.size ≤ bodyLimit ∧
    Text.Decodes bytes.data.toList cs

/-- What gateways are documented to do with the routes and the payload of the dashboard. -/
structure Lawful (gateway : Gateway α) : Prop where
  dispatches : ∀ request handler, gateway.dispatch routes request = .ok handler ↔
    ∃ route ∈ routes, route.path = gateway.path request ∧
      route.takes (gateway.method request) = true ∧ route.handler = handler
  typed : ∀ request action, gateway.payload request = .ok action →
    (gateway.contentType request).isSome
  /-- Bytes that belong to no character are let pass in strings that are passed over. -/
  reads : ∀ request action, gateway.payload request = .ok action →
    ∃ cs, gateway.Carries request cs ∧ readPayload (String.ofList cs) = .ok action
  accepts : ∀ request action text, gateway.contentType request = some jsonType.toUTF8 →
    gateway.body request = some text.toUTF8 → text.utf8ByteSize ≤ bodyLimit →
    readPayload text = .ok action → gateway.payload request = .ok action
  /-- The answer to a head request loses its body, so this is said of post requests only. -/
  delivers : ∀ request response, gateway.method request = .post →
    gateway.deliver request response = response

theorem Carries.unique {request : α} {cs ds : List Char} (first : gateway.Carries request cs)
    (second : gateway.Carries request ds) : cs = ds := by
  obtain ⟨bytes, body, -, decodes⟩ := first
  obtain ⟨other, same, -, again⟩ := second
  cases body.symm.trans same
  exact decodes.unique again

def accepted? (gateway : Gateway α) (request : α) : Option ControlAction :=
  match gateway.dispatch routes request with
  | .ok .control => (gateway.payload request).toOption
  | _ => none

theorem acceptedExact {request : α} {action : ControlAction} :
    gateway.accepted? request = some action ↔
      gateway.dispatch routes request = .ok .control ∧ gateway.payload request = .ok action := by
  unfold accepted?
  constructor
  · intro accepted
    split at accepted
    · rename_i dispatched
      refine ⟨dispatched, ?_⟩
      cases payload : gateway.payload request with
      | error refusal => simp [payload, Except.toOption] at accepted
      | ok found => simpa [payload, Except.toOption] using accepted
    · cases accepted
  · rintro ⟨dispatched, payload⟩
    simp [dispatched, payload, Except.toOption]

/-- What a request is like that is accepted for an action. -/
structure Accepts (gateway : Gateway α) (request : α) (action : ControlAction) : Prop where
  posted : gateway.method request = .post
  path : gateway.path request = "/control"
  typed : (gateway.contentType request).isSome
  whole : ∃ cs, gateway.Carries request cs
  names : ∀ cs, gateway.Carries request cs → Body action cs
  /-- An object has the action once among its members. -/
  once : ∀ cs, gateway.Carries request cs → ∀ members values rest,
    Json.skipSpace cs = '{' :: members →
    Json.Fields actionKey (fun value cs rest => Json.Spells cs (.value value) rest) members values
      rest → ∃ value, values = [value] ∧ Named action value

/-- A request for an action in the form that no gateway refuses. -/
structure Asks (gateway : Gateway α) (request : α) (action : ControlAction) : Prop where
  posted : gateway.method request = .post
  path : gateway.path request = "/control"
  typed : gateway.contentType request = some jsonType.toUTF8
  body : ∃ text : String, gateway.body request = some text.toUTF8 ∧
    text.utf8ByteSize ≤ bodyLimit ∧ Body action text.toList

theorem Lawful.controlled (lawful : gateway.Lawful) {request : α} :
    gateway.dispatch routes request = .ok .control ↔
      gateway.method request = .post ∧ gateway.path request = "/control" := by
  rw [lawful.dispatches]
  constructor
  · rintro ⟨route, listed, path, takes, handler⟩
    simp only [routes, List.mem_cons, List.not_mem_nil, or_false] at listed
    obtain rfl | rfl | rfl | rfl := listed
    · cases handler
    · cases handler
    · exact ⟨by simpa [Route.takes] using takes, path.symm⟩
    · cases handler
  · rintro ⟨posted, path⟩
    exact ⟨⟨"/control", .post, .control⟩, by simp [routes], path.symm,
      by simp [Route.takes, posted], rfl⟩

theorem Lawful.acceptedAre (lawful : gateway.Lawful) {request : α} {action : ControlAction}
    (accepted : gateway.accepted? request = some action) : gateway.Accepts request action := by
  obtain ⟨dispatched, payload⟩ := acceptedExact.mp accepted
  obtain ⟨posted, path⟩ := lawful.controlled.mp dispatched
  obtain ⟨text, carried, read⟩ := lawful.reads request action payload
  have body := payloadExact.mp read
  rw [String.toList_ofList] at body
  have names (cs : List Char) (carries : gateway.Carries request cs) : Body action cs :=
    carried.unique carries ▸ body
  exact ⟨posted, path, lawful.typed request action payload, ⟨text, carried⟩, names,
    fun cs carries members values rest => bodyValues (names cs carries)⟩

theorem Lawful.askedAccepted (lawful : gateway.Lawful) {request : α} {action : ControlAction}
    (asks : gateway.Asks request action) : gateway.accepted? request = some action := by
  obtain ⟨text, body, size, names⟩ := asks.body
  exact acceptedExact.mpr ⟨lawful.controlled.mpr ⟨asks.posted, asks.path⟩,
    lawful.accepts request action text asks.typed body size (payloadExact.mpr names)⟩

end Gateway

/-! ### Requests whose parts are texts -/

section
variable {table : List Route} (distinct : (table.map Route.path).Nodup)
include distinct

end

end PageScript.Dashboard
