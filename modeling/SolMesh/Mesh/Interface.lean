import SolMesh.Foundations.Method
import SolMesh.Foundations.Dict
import SolMesh.Protocol.Frame

set_option relaxedAutoImplicit false
set_option autoImplicit false

/-!
# The interface to the mesh

Nodes register callbacks for the types of messages they take. A packet of the radio is filtered,
unpacked and handed to the callbacks of its type, one after the other. Nothing that goes wrong on
the way, and nothing that a callback raises, escapes.

## Main definitions

* `SolMesh.Handler`, `SolMesh.Handlers` — callbacks, and the callbacks of each message type.
* `SolMesh.registerHandler` — register a callback.
* `SolMesh.Packet` — a packet as the radio hands it over.
* `SolMesh.onReceive` — filter and dispatch a packet.

## Main results

* `SolMesh.run_onReceive` — dispatching never raises, and runs the callbacks of the type.
* `SolMesh.handlersOf_registerHandler` — what is registered.
-/

namespace SolMesh

open Py

/-! ## Callbacks -/

/-- A callback of an object with states in `σ`: it takes header, payload and sender of a message.
What it finds outside its object is in `ε`. -/
abbrev Handler (ε σ : Type) := ε → SolMeshHeader → Bytes → String → Method σ Unit

/-- The callbacks of each message type, in the order in which they were registered. -/
abbrev Handlers (ε σ : Type) := Dict UInt8 (List (Handler ε σ))

variable {ε σ : Type}

/-- Register a callback for a message type. -/
def registerHandler (handlers : Handlers ε σ) (msgType : UInt8) (callback : Handler ε σ) :
    Handlers ε σ :=
  handlers.set msgType ((handlers.get? msgType).getD [] ++ [callback])

/-- The callbacks of a message type. -/
def handlersOf (handlers : Handlers ε σ) (msgType : UInt8) : List (Handler ε σ) :=
  (handlers.get? msgType).getD []

/-- A registered callback comes last among those of its type. -/
lemma handlersOf_registerHandler (handlers : Handlers ε σ) (msgType other : UInt8)
    (callback : Handler ε σ) :
    handlersOf (registerHandler handlers msgType callback) other =
      handlersOf handlers other ++ if other = msgType then [callback] else [] := by
  unfold handlersOf registerHandler
  split_ifs with h
  · rw [h, Dict.get?_set_self, Option.getD_some]
  · rw [Dict.get?_set_of_ne _ h, List.append_nil]

/-- Nothing is registered at the beginning. -/
lemma handlersOf_empty (msgType : UInt8) : handlersOf (∅ : Handlers ε σ) msgType = [] := rfl

/-! ## Packets -/

/-- A packet as the radio hands it over, as far as the interface looks at it: each field is there if
the packet has its key. `fromId` can be there and be `None`. -/
structure Packet where
  portnum : Option String
  payload : Option Bytes
  fromId : Option (Option String)
  /-- The key `from`: the number of the node. -/
  fromNum : Option ℕ

/-- Who sent the packet, with `""` for a sender without a name. An id that is `None` is passed on as
it is, like the number 0: both are falsy, so what is sent back to them is sent to all nodes. No
other sender is `""`, for ids begin with `!`. -/
def Packet.senderId (packet : Packet) : String :=
  match packet.fromId with
  | some (some id) => id
  | some none => ""
  | none =>
    match packet.fromNum with
    | some 0 => ""
    | some n => toString n
    | none => "unknown"

/-- A packet with these bytes from this sender. -/
def Packet.ofFrame (frame : Bytes) (senderId : String) : Packet :=
  ⟨some "PRIVATE_APP", some frame, some (some senderId), none⟩

/-- Run the callbacks one after the other; what one raises is logged. -/
def runHandlers (env : ε) (header : SolMeshHeader) (payload : Bytes) (senderId : String) :
    List (Handler ε σ) → Method σ Unit
  | [] => return
  | handler :: handlers => do
    let _ ← attempt (handler env header payload senderId)
    runHandlers env header payload senderId handlers

/-- Filter a packet and dispatch it to the callbacks of its message type. -/
def onReceive (handlers : Handlers ε σ) (env : ε) (packet : Packet) : Method σ Unit := do
  if packet.portnum ≠ some "PRIVATE_APP" then
    return
  let raw := packet.payload.getD []
  if raw = [] ∨ raw.length < 2 ∨ Bytes.slice raw 0 2 ≠ magic then
    return
  match unpackMessage raw with
  -- both `except` clauses around the whole only log
  | .error _ => return
  | .ok (header, payload) =>
    runHandlers env header payload packet.senderId (handlersOf handlers header.msgType)

/-! ## What dispatching does -/

/-- The message in a packet that is dispatched, if it is. -/
def Packet.message (packet : Packet) : Option (SolMeshHeader × Bytes) :=
  if packet.portnum = some "PRIVATE_APP" then
    (unpackMessage (packet.payload.getD [])).toOption
  else none

@[simp] lemma Packet.message_ofFrame (frame : Bytes) (senderId : String) :
    (Packet.ofFrame frame senderId).message = (unpackMessage frame).toOption := rfl

@[simp] lemma Packet.senderId_ofFrame (frame : Bytes) (senderId : String) :
    (Packet.ofFrame frame senderId).senderId = senderId := rfl

/-- The callbacks run one after the other, and what they raise is dropped. -/
lemma run_runHandlers (env : ε) (header : SolMeshHeader) (payload : Bytes) (senderId : String)
    (handlers : List (Handler ε σ)) (s : σ) :
    (runHandlers env header payload senderId handlers).run s =
      .ok () (handlers.foldl
        (fun s handler => stateAfter (handler env header payload senderId) s) s) := by
  induction handlers generalizing s with
  | nil => rfl
  | cons handler handlers ih =>
    rw [runHandlers, List.foldl_cons, ← ih]
    have hattempt := run_attempt (handler env header payload senderId) s
    cases hrun : (handler env header payload senderId).run s with
    | ok a s' =>
      rw [hrun] at hattempt
      rw [run_bind_ok hattempt, stateAfter_of_ok hrun]
    | error e s' =>
      rw [hrun] at hattempt
      rw [run_bind_ok hattempt, stateAfter_of_error hrun]

/-- What can be unpacked passes the checks in front. -/
lemma startsWithMagic_of_unpackMessage {raw : Bytes} {message : SolMeshHeader × Bytes}
    (h : unpackMessage raw = .ok message) :
    ¬ (raw = [] ∨ raw.length < 2 ∨ Bytes.slice raw 0 2 ≠ magic) := by
  have hframe := unpackMessage_eq_ok_iff.mp ⟨message, h⟩
  have hlen := hframe.header
  have hmagic : Bytes.slice raw 0 2 = magic := hframe.magic
  rw [headerSize] at hlen
  rintro (rfl | hshort | hother)
  · cases hlen
  · omega
  · exact hother hmagic

/-- **Dispatching never raises.** A packet of the application whose bytes begin with a frame is
handed to the callbacks of its type in turn, whatever they raise; any other packet is dropped. -/
lemma run_onReceive (handlers : Handlers ε σ) (env : ε) (packet : Packet) (s : σ) :
    (onReceive handlers env packet).run s = .ok () (match packet.message with
      | none => s
      | some (header, payload) => (handlersOf handlers header.msgType).foldl
          (fun s handler => stateAfter (handler env header payload packet.senderId) s) s) := by
  unfold onReceive Packet.message
  by_cases hport : packet.portnum = some "PRIVATE_APP"
  · rw [if_neg (not_not.mpr hport), if_pos hport]
    dsimp only
    cases hunpack : unpackMessage (packet.payload.getD []) with
    | error e =>
      split_ifs <;> rfl
    | ok message =>
      rw [if_neg (startsWithMagic_of_unpackMessage hunpack)]
      exact run_runHandlers env message.1 message.2 packet.senderId _ s
  · rw [if_pos hport, if_neg hport]
    rfl

/-- The object after a packet was received. -/
def afterReceive (handlers : Handlers ε σ) (env : ε) (packet : Packet) (s : σ) : σ :=
  stateAfter (onReceive handlers env packet) s

/-- A dropped packet changes nothing. -/
lemma afterReceive_of_none {packet : Packet} (h : packet.message = none)
    (handlers : Handlers ε σ) (env : ε) (s : σ) : afterReceive handlers env packet s = s := by
  have hrun := run_onReceive handlers env packet s
  rw [h] at hrun
  exact stateAfter_of_ok hrun

/-- A dispatched packet runs the callbacks of its type. -/
lemma afterReceive_of_some {packet : Packet} {header : SolMeshHeader} {payload : Bytes}
    (h : packet.message = some (header, payload)) (handlers : Handlers ε σ) (env : ε) (s : σ) :
    afterReceive handlers env packet s = (handlersOf handlers header.msgType).foldl
      (fun s handler => stateAfter (handler env header payload packet.senderId) s) s := by
  have hrun := run_onReceive handlers env packet s
  rw [h] at hrun
  exact stateAfter_of_ok hrun

end SolMesh
