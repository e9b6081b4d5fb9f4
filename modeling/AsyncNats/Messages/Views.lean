import AsyncNats.Headers.Encoding
import AsyncNats.Shared.Threads

/-! # What a message shows of itself

The accessors of a message return slices into its strings, and the C++ side makes
`string_view`s of them, without a copy. A slice is an address and a length; the strings stay
where they are as long as the message does, which any thread may clone and delete meanwhile.
An optional string that is absent is a slice without an address, and every other slice has
one, also that of an empty string.
-/

namespace AsyncNats.Messages

open Ownership Transition Shared.Threads
open Headers (HeaderMap)

/-- `StatusCode` of the client, which is not zero. -/
abbrev StatusCode := { code : UInt16 // code ≠ 0 }

/-- `async_nats::Message`. -/
structure Message (Name : Type) where
  subject : Str
  reply : Option Str
  payload : Bytes
  headers : Option (HeaderMap Name)
  status : Option StatusCode
  description : Option Str
  length : UInt64

/-- The strings in a message. -/
inductive Part where
  | subject
  | reply
  | payload
  | description
  deriving DecidableEq, Repr

variable {Name : Type}

def Message.bytes (message : Message Name) : Part → Option Bytes
  | .subject => some message.subject.1
  | .reply => message.reply.map Subtype.val
  | .payload => some message.payload
  | .description => message.description.map Subtype.val

/-- `AsyncNatsSlice`, and a `string_view`. The address of a string is the message it is in, and
which one it is. -/
abbrev Slice := AsyncNats.Slice (Pointer × Part)

/-- `AsyncNatsSlice::default`. -/
def Slice.null : Slice := ⟨none, 0⟩

/-- `as_ptr` and `len`. -/
def Slice.whole (msg : Pointer) (part : Part) (bytes : Bytes) : Slice :=
  ⟨some (msg, part), bytes.length⟩

/-- The slice of an optional string. -/
def Slice.optional (msg : Pointer) (part : Part) : Option Str → Slice
  | none => null
  | some text => whole msg part text.1

abbrev State (Name : Type) := Shared.Threads.State (Message Name)

/-- The threads that use messages. -/
abbrev threads (Name : Type) : System (State Name) (Event (Message Name)) := system (Message Name)

namespace State

variable (state : State Name)

/-! The Rust accessors. `none` is a use after free. -/

/-- `async_nats_message_topic`. -/
def messageTopic (msg : Pointer) : Option Slice :=
  (state.content msg).map fun message => .whole msg .subject message.subject.1

/-- `async_nats_message_data`. -/
def messageData (msg : Pointer) : Option Slice :=
  (state.content msg).map fun message => .whole msg .payload message.payload

/-- `async_nats_message_reply_to`. -/
def messageReplyTo (msg : Pointer) : Option Slice :=
  (state.content msg).map fun message => .optional msg .reply message.reply

/-- `async_nats_message_has_headers`. -/
def messageHasHeaders (msg : Pointer) : Option Bool :=
  (state.content msg).map fun message => message.headers.isSome

/-- `async_nats_message_status`. -/
def messageStatus (msg : Pointer) : Option UInt16 :=
  (state.content msg).map fun message =>
    match message.status with
    | none => 0
    | some status => status.1

/-- `async_nats_message_description`. -/
def messageDescription (msg : Pointer) : Option Slice :=
  (state.content msg).map fun message => .optional msg .description message.description

/-- `async_nats_message_length`. -/
def messageLength (msg : Pointer) : Option UInt64 :=
  (state.content msg).map Message.length

/-- The bytes that a slice shows. -/
def read (slice : Slice) : Option Bytes :=
  match slice.data with
  | none => if slice.size = 0 then some [] else none
  | some (msg, part) =>
    (state.content msg).bind fun message =>
      (message.bytes part).bind fun bytes =>
        if slice.size ≤ bytes.length then some (bytes.take slice.size) else none

end State

/-- A C++ `Message`: its pointer, or null. -/
abbrev CppMessage := Option Pointer

/-- `slice.data != nullptr` and what follows. -/
def Slice.unlessNull (slice : Slice) : Option Slice :=
  if slice.data ≠ none then some slice else none

/-! The C++ accessors. `none` is a failed assertion or a use of null as well. -/

namespace CppMessage

variable (state : State Name) (message : CppMessage)

def topic : Option Slice := message.bind state.messageTopic

def data : Option Slice := message.bind state.messageData

def replyTo : Option (Option Slice) := (message.bind state.messageReplyTo).map Slice.unlessNull

def status : Option UInt16 := message.bind state.messageStatus

def description : Option (Option Slice) :=
  (message.bind state.messageDescription).map Slice.unlessNull

def length : Option UInt64 := message.bind state.messageLength

end CppMessage

/-- `HeadersView::operator bool`. -/
def hasHeaders (state : State Name) (view : Option Pointer) : Option Bool :=
  view.bind state.messageHasHeaders

variable {state last : State Name} {pointer : Pointer} {message : Message Name} {bytes : Bytes}
  {part : Part}

theorem read_whole (found : state.content pointer = some message)
    (located : message.bytes part = some bytes) :
    state.read (.whole pointer part bytes) = some bytes := by
  simp only [State.read, Slice.whole, found, located, Option.bind_some, le_refl, if_true,
    List.take_length]

theorem read_freed (freed : state.content pointer = none) :
    state.read (.whole pointer part bytes) = none := by
  simp only [State.read, Slice.whole, freed, Option.bind_none]

/-- From a state on, a slice has an address and shows the same bytes until the message is
freed. -/
def Lasts (state : State Name) (pointer : Pointer) (slice : Slice) (bytes : Bytes) : Prop :=
  slice.data ≠ none ∧ ∀ labels last, (threads Name).runFrom state labels = some last →
    last.read slice = if pointer ∈ last.freed then none else some bytes

theorem lasts_whole (reached : (threads Name).Reachable state)
    (made : state.made[pointer]? = some message) (located : message.bytes part = some bytes) :
    Lasts state pointer (.whole pointer part bytes) bytes := by
  refine ⟨Option.some_ne_none _, fun labels last run => ?_⟩
  obtain ⟨below, _⟩ := List.getElem?_eq_some_iff.mp made
  have kept := made_prefix reached run
  have content := content_eq (reached.runFrom run) (Nat.lt_of_lt_of_le below kept.length_le)
  by_cases freed : pointer ∈ last.freed
  · rw [if_pos freed] at content ⊢
    exact read_freed content
  · rw [if_neg freed] at content ⊢
    obtain ⟨more, extended⟩ := kept
    rw [← extended, List.getElem?_append_left below, made] at content
    exact read_whole content located

/-- The view of an optional string is there if the string is. -/
theorem lasts_optional (reached : (threads Name).Reachable state)
    (made : state.made[pointer]? = some message) {text : Option Str}
    (located : message.bytes part = text.map Subtype.val) :
    Option.Rel (Lasts state pointer) (Slice.optional pointer part text).unlessNull
      (text.map Subtype.val) := by
  cases text with
  | none => exact .none
  | some text => exact .some (lasts_whole reached made located)

/-- What the accessors return of a message. -/
structure Accurate (state : State Name) (pointer : Pointer) (message : Message Name) : Prop where
  topic : ∃ view, CppMessage.topic state (some pointer) = some view ∧
    Lasts state pointer view message.subject.1
  data : ∃ view, CppMessage.data state (some pointer) = some view ∧
    Lasts state pointer view message.payload
  replyTo : ∃ view, CppMessage.replyTo state (some pointer) = some view ∧
    Option.Rel (Lasts state pointer) view (message.reply.map Subtype.val)
  description : ∃ view, CppMessage.description state (some pointer) = some view ∧
    Option.Rel (Lasts state pointer) view (message.description.map Subtype.val)
  status : ∃ code, CppMessage.status state (some pointer) = some code ∧
    ∀ status : StatusCode, message.status = some status ↔ code = status.1
  length : CppMessage.length state (some pointer) = some message.length
  hasHeaders : hasHeaders state (some pointer) = some message.headers.isSome

theorem accurate_of_content (reached : (threads Name).Reachable state)
    (found : state.content pointer = some message)
    (made : state.made[pointer]? = some message) : Accurate state pointer message := by
  constructor
  · refine ⟨.whole pointer .subject message.subject.1, ?_, lasts_whole reached made rfl⟩
    rw [CppMessage.topic, Option.bind_some, State.messageTopic, found, Option.map_some]
  · refine ⟨.whole pointer .payload message.payload, ?_, lasts_whole reached made rfl⟩
    rw [CppMessage.data, Option.bind_some, State.messageData, found, Option.map_some]
  · refine ⟨(Slice.optional pointer .reply message.reply).unlessNull, ?_,
      lasts_optional reached made rfl⟩
    rw [CppMessage.replyTo, Option.bind_some, State.messageReplyTo, found, Option.map_some,
      Option.map_some]
  · refine ⟨(Slice.optional pointer .description message.description).unlessNull, ?_,
      lasts_optional reached made rfl⟩
    rw [CppMessage.description, Option.bind_some, State.messageDescription, found,
      Option.map_some, Option.map_some]
  · refine ⟨_, by rw [CppMessage.status, Option.bind_some, State.messageStatus, found,
      Option.map_some], fun status => ?_⟩
    cases message.status with
    | none => exact iff_of_false (Option.some_ne_none status).symm status.2.symm
    | some code => rw [Option.some.injEq, Subtype.ext_iff]
  · rw [CppMessage.length, Option.bind_some, State.messageLength, found, Option.map_some]
  · rw [hasHeaders, Option.bind_some, State.messageHasHeaders, found, Option.map_some]

/-- The accessors of a message that is held return what it was received with, and their views
show it until the message is freed, whatever the other threads do. -/
theorem accessors_accurate (reached : (threads Name).Reachable state)
    (held : pointer ∈ state.references) :
    ∃ message, state.made[pointer]? = some message ∧ Accurate state pointer message := by
  obtain ⟨_, message, found, made⟩ := intact_of_held reached held
  exact ⟨message, made, accurate_of_content reached found made⟩

section Example

/-- A request with an empty reply subject and without a description. -/
def request : Message Bytes where
  subject := ⟨Utf8.encode ['a', 'é'], ['a', 'é'], rfl⟩
  reply := some ⟨[], [], rfl⟩
  payload := [0, 255]
  headers := none
  status := none
  description := none
  length := 5

/-- A message is copied, and another thread deletes the original. -/
theorem accessors_accurate_of_request :
    ∃ state, (threads Bytes).run [.create request, .clone 0, .fetchSub 7 0] = some state ∧
      ∃ message, state.made[0]? = some message ∧ Accurate state 0 message := by
  have evaluated :
      ((threads Bytes).run [.create request, .clone 0, .fetchSub 7 0]).map
        (fun state => state.references) = some [0] := by decide
  obtain ⟨state, run, references⟩ := Option.map_eq_some_iff.mp evaluated
  have held : 0 ∈ state.references := by
    rw [references]
    exact List.mem_singleton_self 0
  exact ⟨state, run, accessors_accurate ⟨_, run⟩ held⟩

end Example

/-- The argument that a call gets which is passed a view: what it shows, at some address. -/
def State.buffer (state : State Name) (address : Pointer × Part → Address) (slice : Slice) :
    Option Buffer :=
  match slice.data with
  | none => if slice.size = 0 then some ⟨none, [], fun _ => rfl⟩ else none
  | some place => (state.read slice).map fun bytes => ⟨some (address place), bytes, nofun⟩

/-- A view that is still good makes an argument with an address. -/
theorem buffer_of_lasts {slice : Slice} {labels : List (Event (Message Name))}
    (lasts : Lasts state pointer slice bytes)
    (run : (threads Name).runFrom state labels = some last)
    (kept : pointer ∉ last.freed) (address : Pointer × Part → Address) :
    ∃ buffer, State.buffer last address slice = some buffer ∧ buffer.data ≠ none ∧
      buffer.bytes = bytes := by
  obtain ⟨addressed, shows⟩ := lasts
  have shown := shows labels last run
  rw [if_neg kept] at shown
  obtain ⟨place, located⟩ := Option.ne_none_iff_exists'.mp addressed
  simp only [State.buffer, located, shown, Option.map_some]
  exact ⟨_, rfl, Option.some_ne_none _, rfl⟩

/-- A Rust string as its characters. -/
def text (string : Str) : RustString := fromUtf8Lossy string.1

theorem encode_text (string : Str) : Utf8.encode (text string) = string.1 :=
  Utf8.valid_iff.mp string.2

/-- `Connection::publish` with views of a message. -/
def publish (state : State Name) (address : Pointer × Part → Address) (topic data : Slice) :
    Option (Outcome × Locals) := do
  let topic ← state.buffer address topic
  let data ← state.buffer address data
  (BufferCall.publish topic data).run Locals.new

/-- `Connection::publish` with a reply subject. -/
def publishWithReply (state : State Name) (address : Pointer × Part → Address)
    (topic replyTo data : Slice) : Option (Outcome × Locals) := do
  let topic ← state.buffer address topic
  let replyTo ← state.buffer address replyTo
  let data ← state.buffer address data
  (BufferCall.publishWithReply topic replyTo data).run Locals.new

/-- What is published of a message whose views are passed on. -/
structure Forwards (last : State Name) (address : Pointer × Part → Address)
    (message : Message Name) (topic data : Slice) (replyTo : Option Slice) : Prop where
  plain : publish last address topic data =
    some (.published (text message.subject) none message.payload, Locals.new)
  answerable : ∀ reply ∈ message.reply, ∃ view ∈ replyTo,
    publishWithReply last address topic view data =
      some (.published (text message.subject) (some (text reply)) message.payload, Locals.new)
  subject : Utf8.encode (text message.subject) = message.subject.1
  reply : ∀ reply ∈ message.reply, Utf8.encode (text reply) = reply.1

/-- A message whose views are passed on while somebody holds it is published again as it was
received, but for its headers. -/
theorem forwards_message {labels : List (Event (Message Name))}
    (reached : (threads Name).Reachable state) (held : pointer ∈ state.references)
    (run : (threads Name).runFrom state labels = some last)
    (still : pointer ∈ last.references) (address : Pointer × Part → Address) :
    ∃ message topic data replyTo, state.made[pointer]? = some message ∧
      CppMessage.topic state (some pointer) = some topic ∧
      CppMessage.data state (some pointer) = some data ∧
      CppMessage.replyTo state (some pointer) = some replyTo ∧
      Forwards last address message topic data replyTo := by
  have kept := (intact_of_held (reached.runFrom run) still).1
  obtain ⟨_, message, found, made⟩ := intact_of_held reached held
  have accurate := accurate_of_content reached found made
  obtain ⟨topic, shown, lasting⟩ := accurate.topic
  obtain ⟨topicArg, topicMade, topicAddress, topicBytes⟩ :=
    buffer_of_lasts lasting run kept address
  obtain ⟨data, given, lasting⟩ := accurate.data
  obtain ⟨dataArg, dataMade, dataAddress, dataBytes⟩ := buffer_of_lasts lasting run kept address
  obtain ⟨replyTo, answered, replies⟩ := accurate.replyTo
  refine ⟨message, topic, data, replyTo, made, shown, given, answered, ?_⟩
  constructor
  · have addressed : (BufferCall.publish topicArg dataArg).Addressed :=
      List.forall_mem_cons.mpr ⟨topicAddress, List.forall_mem_singleton.mpr dataAddress⟩
    simp only [publish, topicMade, dataMade, bind, Option.bind,
      BufferCall.run_of_addressed addressed, BufferCall.expected, topicBytes, dataBytes, text]
  · intro reply member
    rw [Option.mem_def.mp member] at replies
    obtain @⟨view, _, lasting⟩ | _ := replies
    obtain ⟨replyArg, replyMade, replyAddress, replyBytes⟩ :=
      buffer_of_lasts lasting run kept address
    refine ⟨view, rfl, ?_⟩
    have addressed : (BufferCall.publishWithReply topicArg replyArg dataArg).Addressed :=
      List.forall_mem_cons.mpr ⟨topicAddress,
        List.forall_mem_cons.mpr ⟨replyAddress, List.forall_mem_singleton.mpr dataAddress⟩⟩
    simp only [publishWithReply, topicMade, replyMade, dataMade, bind, Option.bind,
      BufferCall.run_of_addressed addressed, BufferCall.expected, topicBytes, replyBytes,
      dataBytes, text]
  · exact encode_text message.subject
  · exact fun reply _ => encode_text reply

/-- The views of the original are passed on when only the copy is left. -/
theorem forwards_message_of_request :
    ∃ state last, (threads Bytes).run [.create request, .clone 0] = some state ∧
      (threads Bytes).runFrom state [.fetchSub 7 0, .finish 7] = some last ∧
      ∃ message topic data replyTo, state.made[0]? = some message ∧
        CppMessage.topic state (some 0) = some topic ∧
        CppMessage.data state (some 0) = some data ∧
        CppMessage.replyTo state (some 0) = some replyTo ∧
        Forwards last (fun place => place.1) message topic data replyTo := by
  have evaluated :
      ((threads Bytes).run [.create request, .clone 0]).map (fun state => (state.references,
        ((threads Bytes).runFrom state [.fetchSub 7 0, .finish 7]).map
          fun last => last.references)) =
          some ([0, 0], some [0]) := by decide
  obtain ⟨state, run, same⟩ := Option.map_eq_some_iff.mp evaluated
  obtain ⟨held, rest⟩ := Prod.ext_iff.mp same
  obtain ⟨last, finished, still⟩ := Option.map_eq_some_iff.mp rest
  have first : 0 ∈ state.references := by
    rw [show state.references = [0, 0] from held]
    exact List.mem_cons_self
  have second : 0 ∈ last.references := by
    rw [still]
    exact List.mem_cons_self
  exact ⟨state, last, run, finished,
    forwards_message ⟨_, run⟩ first finished second fun place => place.1⟩

end AsyncNats.Messages
