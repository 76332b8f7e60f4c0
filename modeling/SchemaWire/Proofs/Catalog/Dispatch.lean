import SchemaWire.Proofs.Catalog.Encoding
import SchemaWire.Proofs.Value.Bounded

/-!
Framed messages of several types. Decoding by the type id in the header and decoding as one type
look at the same header in the same order, so both accept the same frames. Only these two look at
type ids: a header or a payload is never refused on their account.
-/
namespace SchemaWire

/-- The reasons that have to do with the type ids of messages. -/
inductive WireError.OfType : WireError → Prop where
  | unknown (id : UInt16) : OfType (.unknownTypeId id)
  | mismatch (expected found : UInt16) : OfType (.typeIdMismatch expected found)

theorem WireError.OfInput.not_ofType {e : WireError} (h : e.OfInput) : ¬ e.OfType := by
  intro type
  cases type <;> cases h

namespace Decode

/-- The decoder never fails on account of a type id. -/
def TypeBlind {α : Type} (d : Decode α) : Prop :=
  ∀ ⦃c c' : Cursor⦄ ⦃e : WireError⦄, d c = .error e c' → ¬ e.OfType

variable {α β : Type} {d : Decode α}

theorem BlamesInput.typeBlind (h : d.BlamesInput) : d.TypeBlind :=
  fun _ _ _ failed => (h failed).not_ofType

theorem TypeBlind.bind {f : α → Decode β} (h : d.TypeBlind) (h' : ∀ a, (f a).TypeBlind) :
    (d >>= f).TypeBlind := by
  intro c c' e failed
  obtain first | ⟨a, c'', -, second⟩ := bind_eq_error.mp failed
  · exact h first
  · exact h' a second

theorem typeBlind_throw {e : WireError} (h : ¬ e.OfType) : TypeBlind (throw e : Decode α) := by
  intro c c' e' failed
  cases failed
  exact h

theorem TypeBlind.guard {condition : Prop} [Decidable condition] {e : WireError}
    {f : Unit → Decode α} (h : ¬ e.OfType) (h' : (f ()).TypeBlind) :
    TypeBlind (if condition then throw e >>= f else f ()) := by
  split
  · exact (typeBlind_throw h).bind fun _ => h'
  · exact h'

/-- Decoders whose errors are alike blame the input alike. -/
theorem Parallel.blamesInput {d' : Decode β} {R : α → β → Prop} (h : Parallel d d' R)
    (blames : d'.BlamesInput) : d.BlamesInput := by
  intro c c' e failed
  obtain ⟨e', c'', failed', alike⟩ := h.error failed
  cases alike with
  | refl => exact blames failed'
  | unexpectedEnd needed needed' available => exact .unexpectedEnd needed available

end Decode

theorem checkSerializedSize_not_ofType {size : Nat} {e : WireError}
    (refused : checkSerializedSize size = .error e) : ¬ e.OfType := by
  unfold checkSerializedSize at refused
  split at refused
  · cases refused
    rintro ⟨⟩
  · cases refused

theorem typeBlind_checkSerializedSize (size : Nat) :
    (Decode.ofExcept (checkSerializedSize size)).TypeBlind := by
  cases checked : checkSerializedSize size with
  | error e => exact Decode.typeBlind_throw (checkSerializedSize_not_ofType checked)
  | ok => exact (Decode.BlamesInput.pure ()).typeBlind

mutual

theorem Layout.blamesInput_decode : (l : Layout) → l.decode.BlamesInput
  | .scalar t => Decode.blamesInput_scalar t
  | .text => Decode.blamesInput_text
  | .packed t =>
      (Decode.parallel_packed t).blamesInput (Decode.blamesInput_list (Decode.blamesInput_scalar t))
  | .list item => Decode.blamesInput_list item.blamesInput_decode
  | .option item => Decode.blamesInput_option item.blamesInput_decode
  | .record _ fields => fields.blamesInput_decode

theorem Fields.blamesInput_decode : (fs : Fields) → fs.decode.BlamesInput
  | .nil => .pure ()
  | .cons _ layout rest =>
      layout.blamesInput_decode.bind fun _ => rest.blamesInput_decode.map _

end

namespace FrameHeader

theorem typeBlind_decode : decode.TypeBlind := by
  refine (Decode.blamesInput_bytes 3).typeBlind.bind fun magic => .guard (by rintro ⟨⟩) ?_
  refine (Decode.blamesInput_scalar _).typeBlind.bind fun version => .guard (by rintro ⟨⟩) ?_
  refine (Decode.blamesInput_scalar _).typeBlind.bind fun typeId => ?_
  refine (Decode.blamesInput_scalar _).typeBlind.bind fun size => ?_
  refine (typeBlind_checkSerializedSize _).bind fun _ => ?_
  exact ((Decode.blamesInput_bytes _).map _).typeBlind

theorem parse_not_ofType {raw : Bytes} {e : WireError} (failed : parse raw = .error e) :
    ¬ e.OfType := by
  unfold parse at failed
  split at failed
  · cases failed
    rintro ⟨⟩
  · split at failed
    · cases failed
    · rename_i stopped
      cases failed
      exact typeBlind_decode stopped

end FrameHeader

namespace Message

variable {m : Message} {raw payload : Bytes} {header : FrameHeader} {e : WireError}

theorem decode_not_ofType (failed : m.decode raw = .error e) : ¬ e.OfType := by
  unfold decode Decode.payload at failed
  split at failed
  · rename_i refused
    cases failed
    exact checkSerializedSize_not_ofType refused
  · split at failed
    · cases failed
    · rename_i stopped
      cases failed
      exact (m.layout.blamesInput_decode stopped).not_ofType

theorem decodeMessage_of_error (failed : FrameHeader.parse raw = .error e) :
    m.decodeMessage raw = .error e := by
  rw [decodeMessage, failed]
  rfl

theorem decodeMessage_of_ok (parsed : FrameHeader.parse raw = .ok (header, payload)) :
    m.decodeMessage raw =
      if header.typeId = m.typeId then m.decode payload
      else .error (.typeIdMismatch m.typeId header.typeId) := by
  rw [decodeMessage, parsed]
  by_cases same : header.typeId = m.typeId
  · simp [bind, Except.bind, same]
  · simp [bind, Except.bind, same, throw, throwThe, MonadExceptOf.throw]

end Message

namespace AnyMessage

/-- What a frame can be to some message types: it has no header, its header tells none of the types,
or it is a frame of one of them. -/
inductive Framed (messages : List Message) (raw : Bytes) : Prop where
  | headless (e : WireError) (parsed : FrameHeader.parse raw = .error e)
      (any : decode messages raw = .error e) (each : ∀ m : Message, m.decodeMessage raw = .error e)
  | foreign (header : FrameHeader) (payload : Bytes)
      (parsed : FrameHeader.parse raw = .ok (header, payload))
      (any : decode messages raw = .error (.unknownTypeId header.typeId))
      (each : ∀ m ∈ messages,
        m.decodeMessage raw = .error (.typeIdMismatch m.typeId header.typeId))
  | typed (header : FrameHeader) (payload : Bytes) (m : Message)
      (parsed : FrameHeader.parse raw = .ok (header, payload)) (known : m ∈ messages)
      (type : m.typeId = header.typeId) (any : decode messages raw = (m.decode payload).map (mk m))
      (one : m.decodeMessage raw = m.decode payload)
      (others : ∀ other ∈ messages, other ≠ m →
        other.decodeMessage raw = .error (.typeIdMismatch other.typeId m.typeId))

section Types

variable {messages : List Message} (distinct : (messages.map (·.typeId)).Nodup) (raw : Bytes)
include distinct

theorem framed : Framed messages raw := by
  cases parsed : FrameHeader.parse raw with
  | error e =>
      refine .headless e parsed ?_ fun m => Message.decodeMessage_of_error parsed
      rw [decode, parsed]
      rfl
  | ok frame =>
      obtain ⟨header, payload⟩ := frame
      cases found : messages.find? (·.typeId == header.typeId) with
      | none =>
          refine .foreign header payload parsed ?_ fun m known => ?_
          · rw [decode, parsed]
            simp only [bind, Except.bind, found]
            rfl
          · have other := List.find?_eq_none.mp found m known
            rw [Message.decodeMessage_of_ok parsed, if_neg]
            exact fun same => other (beq_iff_eq.mpr same.symm)
      | some m =>
          have told := List.find?_some found
          have type : m.typeId = header.typeId := beq_iff_eq.mp told
          have known := List.mem_of_find?_eq_some found
          refine .typed header payload m parsed known type ?_ ?_ fun other there differ => ?_
          · rw [decode, parsed]
            simp only [bind, Except.bind, found]
            cases m.decode payload <;> rfl
          · rw [Message.decodeMessage_of_ok parsed, if_pos type.symm]
          · rw [Message.decodeMessage_of_ok parsed, ← type, if_neg]
            exact fun same => differ (List.inj_on_of_nodup_map distinct there known same.symm)

theorem decode_eq_ok_iff (a : AnyMessage) :
    decode messages raw = .ok a ↔
      a.message ∈ messages ∧ a.message.decodeMessage raw = .ok a.value := by
  obtain ⟨m, x⟩ := a
  cases framed distinct raw with
  | headless e _ any each => simp [any, each]
  | foreign header payload _ any each =>
      simp only [any, reduceCtorEq, false_iff, not_and]
      intro known decoded
      cases (each m known).symm.trans decoded
  | typed header payload m' _ known _ any one others =>
      by_cases same : m = m'
      · subst same
        simp only [any, known, one, true_and]
        cases m.decode payload <;> simp [Except.map]
      · have left : decode messages raw ≠ .ok ⟨m, x⟩ := by
          rw [any]
          cases m'.decode payload with
          | error e => intro same; cases same
          | ok y =>
              intro equal
              exact same (congrArg message (Except.ok.inj equal)).symm
        refine ⟨fun decoded => absurd decoded left, ?_⟩
        rintro ⟨there, decoded⟩
        cases (others m there same).symm.trans decoded

theorem mismatch_of_decodeMessage {m : Message} (known : m ∈ messages) {x : m.Owned}
    (decoded : m.decodeMessage raw = .ok x) {other : Message} (there : other ∈ messages)
    (differ : other ≠ m) :
    other.decodeMessage raw = .error (.typeIdMismatch other.typeId m.typeId) := by
  cases framed distinct raw with
  | headless e _ _ each => cases (each m).symm.trans decoded
  | foreign header payload _ _ each => cases (each m known).symm.trans decoded
  | typed header payload m' _ _ _ _ _ others =>
      by_cases same : m = m'
      · subst same
        exact others other there differ
      · cases (others m known same).symm.trans decoded

theorem decode_eq_unknownTypeId_iff (some : messages ≠ []) (id : UInt16) :
    decode messages raw = .error (.unknownTypeId id) ↔
      (∃ header payload, FrameHeader.parse raw = .ok (header, payload)) ∧
        ∀ m ∈ messages, m.decodeMessage raw = .error (.typeIdMismatch m.typeId id) := by
  cases framed distinct raw with
  | headless e parsed any _ =>
      constructor
      · intro unknown
        cases any.symm.trans unknown
        exact absurd (.unknown id) (FrameHeader.parse_not_ofType parsed)
      · rintro ⟨⟨header, payload, parsed'⟩, -⟩
        cases parsed.symm.trans parsed'
  | foreign header payload parsed any each =>
      constructor
      · intro unknown
        cases any.symm.trans unknown
        exact ⟨⟨header, payload, parsed⟩, each⟩
      · rintro ⟨-, mismatches⟩
        obtain ⟨m, known⟩ := List.exists_mem_of_ne_nil messages some
        cases (each m known).symm.trans (mismatches m known)
        exact any
  | typed header payload m parsed known _ any one _ =>
      constructor
      · intro unknown
        rw [any] at unknown
        cases failed : m.decode payload with
        | ok x => rw [failed] at unknown; cases unknown
        | error e =>
            rw [failed] at unknown
            cases unknown
            exact absurd (.unknown id) (Message.decode_not_ofType failed)
      · rintro ⟨-, mismatches⟩
        have failed := one.symm.trans (mismatches m known)
        exact absurd (.mismatch _ _) (Message.decode_not_ofType failed)

/-- An error is that of the header, that of the type the header tells, or that there is none. -/
theorem decode_eq_error {e : WireError} (failed : decode messages raw = .error e)
    (told : ∀ id, e ≠ .unknownTypeId id) :
    (∃ header payload, FrameHeader.parse raw = .ok (header, payload) ∧
      ∃ m ∈ messages, m.typeId = header.typeId ∧ m.decodeMessage raw = .error e) ∨
      FrameHeader.parse raw = .error e ∧ ∀ m ∈ messages, m.decodeMessage raw = .error e := by
  cases framed distinct raw with
  | headless e' parsed any each =>
      cases any.symm.trans failed
      exact .inr ⟨parsed, fun m _ => each m⟩
  | foreign header payload _ any _ =>
      cases any.symm.trans failed
      exact absurd rfl (told header.typeId)
  | typed header payload m parsed known type any one _ =>
      refine .inl ⟨header, payload, parsed, m, known, type, ?_⟩
      rw [any] at failed
      rw [one]
      cases decoded : m.decode payload with
      | ok x => rw [decoded] at failed; cases failed
      | error e' => rw [decoded] at failed; cases failed; rfl

/-- A framed message within the limits is decoded as itself. -/
theorem decode_encodeMessage {a : AnyMessage} (known : a.message ∈ messages)
    (solid : a.message.layout.solid = true) (within : a.message.layout.WithinLimits a.value) :
    decode messages a.encodeMessage = .ok a := by
  have small : (a.message.encode a.value).length ≤ maxSerializedSize := by
    rw [Message.encode_eq, a.message.layout.length_bytes]
    exact within.size
  have parsed := Frame.parse_encode a.message.typeId small []
  rw [List.append_nil] at parsed
  refine (decode_eq_ok_iff distinct _ a).mpr ⟨known, ?_⟩
  rw [encodeMessage, Message.encodeMessage_eq, Message.decodeMessage_of_ok parsed]
  exact (if_pos rfl).trans (Message.decode_of_withinLimits solid within)

end Types
end AnyMessage

namespace Catalog

/-- The messages of the catalogue are dispatched on as they are decoded one by one. A frame is decoded
as a message of a type exactly if that type decodes it so, and then the others find a type id that is
not theirs. A type id is unknown exactly if behind a header all types find one that is not theirs.
Any other error is that of the type that the header tells, or that of the header for all types.
Messages within the limits are decoded from their frames. -/
theorem decodeMessage_agrees_with_types :
    (∀ raw,
      (∀ a, decodeMessage raw = .ok a ↔
        a.message ∈ messages ∧ a.message.decodeMessage raw = .ok a.value) ∧
      (∀ m ∈ messages, ∀ x, m.decodeMessage raw = .ok x → ∀ other ∈ messages, other ≠ m →
        other.decodeMessage raw = .error (.typeIdMismatch other.typeId m.typeId)) ∧
      (∀ id, decodeMessage raw = .error (.unknownTypeId id) ↔
        (∃ header payload, FrameHeader.parse raw = .ok (header, payload)) ∧
          ∀ m ∈ messages, m.decodeMessage raw = .error (.typeIdMismatch m.typeId id)) ∧
      ∀ e, decodeMessage raw = .error e → (∀ id, e ≠ .unknownTypeId id) →
        (∃ header payload, FrameHeader.parse raw = .ok (header, payload) ∧
          ∃ m ∈ messages, m.typeId = header.typeId ∧ m.decodeMessage raw = .error e) ∨
          FrameHeader.parse raw = .error e ∧ ∀ m ∈ messages, m.decodeMessage raw = .error e) ∧
    ∀ a : AnyMessage, a.message ∈ messages → a.message.layout.WithinLimits a.value →
      decodeMessage a.encodeMessage = .ok a := by
  have distinct : (messages.map (·.typeId)).Nodup := by decide
  constructor
  · intro raw
    refine ⟨AnyMessage.decode_eq_ok_iff distinct raw, ?_, ?_, ?_⟩
    · intro m known x decoded other there differ
      exact AnyMessage.mismatch_of_decodeMessage distinct raw known decoded there differ
    · exact AnyMessage.decode_eq_unknownTypeId_iff distinct raw (List.cons_ne_nil _ _)
    · intro e failed told
      exact AnyMessage.decode_eq_error distinct raw failed told
  · intro a known within
    exact AnyMessage.decode_encodeMessage distinct known (messages_solid _ known) within

theorem decodeMessage_agrees_with_types_inventory :
    inventory ∈ messages ∧ inventory.layout.WithinLimits fullInventory ∧
      decodeMessage (inventory.encodeMessage fullInventory) = .ok ⟨inventory, fullInventory⟩ ∧
      inventory.decodeMessage (inventory.encodeMessage fullInventory) = .ok fullInventory ∧
      item.decodeMessage (inventory.encodeMessage fullInventory) =
        .error (.typeIdMismatch 3 4) := by
  have known : inventory ∈ messages := by simp [messages]
  have within : inventory.layout.WithinLimits fullInventory := ⟨by decide, by decide, by decide⟩
  obtain ⟨each, encoded⟩ := decodeMessage_agrees_with_types
  have decoded := encoded ⟨inventory, fullInventory⟩ known within
  obtain ⟨accepts, others, -⟩ := each (inventory.encodeMessage fullInventory)
  have own := ((accepts _).mp decoded).2
  refine ⟨known, within, decoded, own, ?_⟩
  exact others inventory known _ own item (by simp [messages])
    fun same => absurd (congrArg Message.name same) (by decide)

end Catalog
end SchemaWire
