import PageScript.Proofs.Dashboard.Gateway
import PageScript.Proofs.Run.Flags

/-! What requests do to a run, whatever gateway brings them. Some are accepted, and steer it: they
are posted to the path of control and name an action. All others leave it alone, and none touches
what those who follow the run get of its events. -/
namespace PageScript

namespace Dashboard

/-! ### Streams of events -/

namespace Channel

/-- Nothing was sent, and those who followed before follow as they did. -/
structure Keeps (before after : Channel) : Prop where
  sent : after.sent = before.sent
  positions : before.positions <+: after.positions

theorem Keeps.refl (channel : Channel) : channel.Keeps channel := ⟨rfl, List.prefix_rfl⟩

theorem Keeps.trans {a b c : Channel} (left : a.Keeps b) (right : b.Keeps c) : a.Keeps c :=
  ⟨right.sent.trans left.sent, left.positions.trans right.positions⟩

theorem keepsSubscribe (channel : Channel) : channel.Keeps channel.subscribe.2 :=
  ⟨rfl, List.prefix_append ..⟩

theorem Keeps.unsubscribe {before after : Channel} (keeps : before.Keeps after) {n : Nat}
    (later : before.positions.length ≤ n) : before.Keeps (after.unsubscribe n) := by
  obtain ⟨others, positions⟩ := keeps.positions
  refine ⟨keeps.sent, others.set (n - before.positions.length) none, ?_⟩
  rw [Channel.unsubscribe, ← positions, List.set_append_right n none later]

end Channel

/-! ### One request -/

namespace Server

variable {α : Type} (gateway : Gateway α) (server : Server)

inductive Served (request : α) : Server → Response → Prop
  | steered (action : ControlAction) (accepted : gateway.accepted? request = some action) :
      Served request (server.steer action)
        (gateway.deliver request (server.answerAction action).2)
  | left (refused : gateway.accepted? request = none) {after : Server} {response : Response}
      (control : after.control = server.control) (channel : server.channel.Keeps after.channel) :
      Served request after response

theorem followedKeeps (sent : Response) :
    server.channel.Keeps
      ((server.answerEvents.1.release server.answerEvents.2 sent).channel) := by
  have subscribed := server.channel.keepsSubscribe
  unfold release
  split
  · rename_i n follows _
    have number : server.channel.positions.length = n := Option.some.inj follows
    exact subscribed.unsubscribe (Nat.le_of_eq number)
  · exact subscribed

theorem followedControl (sent : Response) :
    (server.answerEvents.1.release server.answerEvents.2 sent).control = server.control := by
  unfold release
  split <;> rfl

theorem serveCases (request : α) : Served gateway server request
    (server.serve gateway request).1 (server.serve gateway request).2 := by
  unfold serve
  cases dispatched : gateway.dispatch routes request with
  | error refusal => exact .left (by simp [Gateway.accepted?, dispatched]) rfl (.refl _)
  | ok handler =>
    have refused (other : handler ≠ .control) : gateway.accepted? request = none := by
      cases handler <;> simp [Gateway.accepted?, dispatched] at other ⊢
    cases handler with
    | document => exact .left (refused (by decide)) rfl (.refl _)
    | icon => exact .left (refused (by decide)) rfl (.refl _)
    | events => exact .left (refused (by decide)) (followedControl ..) (followedKeeps ..)
    | control =>
      simp only [handle, answerControl]
      cases payload : gateway.payload request with
      | error refusal =>
        have unread : gateway.accepted? request = none := by
          simp [Gateway.accepted?, dispatched, payload, Except.toOption]
        exact .left unread rfl (.refl _)
      | ok action => exact .steered action (Gateway.acceptedExact.mpr ⟨dispatched, payload⟩)

theorem serveKeeps (request : α) :
    server.channel.Keeps (server.serve gateway request).1.channel := by
  have served := serveCases gateway server request
  generalize (server.serve gateway request).1 = after, (server.serve gateway request).2 = response
    at served
  cases served with
  | steered => exact .refl server.channel
  | left _ _ channel => exact channel

theorem serveControls (request : α) : (server.serve gateway request).1.control =
    server.control.applyAll (gateway.accepted? request).toList := by
  have served := serveCases gateway server request
  generalize (server.serve gateway request).1 = after, (server.serve gateway request).2 = response
    at served
  cases served with
  | steered action accepted =>
    rw [accepted]
    rfl
  | left refused control =>
    rw [refused, control]
    rfl

end Server

/-- Whether a request is accepted, and what one does that is not. -/
structure Judged {α : Type} (gateway : Gateway α) (request : α) : Prop where
  accepts : ∀ action, gateway.accepted? request = some action → gateway.Accepts request action
  asks : ∀ action, gateway.Asks request action → gateway.accepted? request = some action
  refused : gateway.accepted? request = none → ∀ server : Server,
    (server.serve gateway request).1.control = server.control ∧
      server.channel.Keeps (server.serve gateway request).1.channel

theorem Gateway.Lawful.judged {α : Type} {gateway : Gateway α} (lawful : gateway.Lawful)
    (request : α) : Judged gateway request where
  accepts _ := lawful.acceptedAre
  asks _ := lawful.askedAccepted
  refused refused server := by
    refine ⟨?_, server.serveKeeps gateway request⟩
    rw [Server.serveControls, refused]
    rfl

/-! ### All requests -/

namespace Server

variable {α : Type}

def taken (gateway : Gateway α) (requests : List α) : List ControlAction :=
  requests.filterMap gateway.accepted?

end Server

end Dashboard

end PageScript
