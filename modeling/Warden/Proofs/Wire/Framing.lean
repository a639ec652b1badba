import Warden.Proofs.Surface
import Warden.Wire.Message

namespace Warden

/-!
# Lines to the host

What the host is sent can be taken apart again. In the bytes of a text, a byte below 32 is a control
character, never a part of some other one; and as no line has such a character, the line feeds
between the lines are the only ones there are.

* `Text.bytes`, `Text.le_of_mem_bytes` — the bytes of a text, and that none is below 32 if no
  character is.
* `Wire.Message.Fits` — the numbers of a message have their bits.
* `Wire.Message.toJson_inj` — two messages have two documents.
* `Wire.splitOn_written` — the pieces between line feeds are the lines.
* `Wire.framing_unambiguous` — what is sent has one line per message, and comes from these messages
  only.
-/

namespace Text

/-! ### Bytes -/

/-- The bytes of a text. -/
def bytes (s : String) : List UInt8 := s.toUTF8.data.toList

/-- The bytes of a text are those of its characters. -/
theorem bytes_eq (s : String) : bytes s = s.toList.flatMap String.utf8EncodeChar := by
  rw [bytes, String.toUTF8_eq_toByteArray, ← String.utf8Encode_toList, List.utf8Encode,
    List.toList_data_toByteArray]

/-- Texts that stand one behind the other have their bytes so. -/
theorem bytes_append (s t : String) : bytes (s ++ t) = bytes s ++ bytes t := by
  rw [bytes_eq, bytes_eq, bytes_eq, String.toList_append, List.flatMap_append]

/-- A text is told by its bytes. -/
theorem bytes_inj {s t : String} (h : bytes s = bytes t) : s = t :=
  String.toByteArray_inj.1 (ByteArray.ext (Array.toList_inj.1 h))

/-- A character that is no control character has no byte below 32, since the bytes of a longer one
all have their first bit set. -/
theorem le_of_mem_utf8EncodeChar {c : Char} {b : UInt8} (hc : 32 ≤ c.toNat)
    (hb : b ∈ String.utf8EncodeChar c) : 32 ≤ b.toNat := by
  have hval : c.val.toNat = c.toNat := rfl
  unfold String.utf8EncodeChar at hb
  simp only [hval] at hb
  -- One, two, three and four bytes.
  split at hb
  · obtain rfl := List.mem_singleton.1 hb
    rw [UInt8.toNat_ofNat']
    omega
  split at hb
  · simp only [List.mem_cons, List.not_mem_nil, or_false] at hb
    rcases hb with rfl | rfl <;> rw [UInt8.toNat_ofNat'] <;> omega
  split at hb
  · simp only [List.mem_cons, List.not_mem_nil, or_false] at hb
    rcases hb with rfl | rfl | rfl <;> rw [UInt8.toNat_ofNat'] <;> omega
  · simp only [List.mem_cons, List.not_mem_nil, or_false] at hb
    rcases hb with rfl | rfl | rfl | rfl <;> rw [UInt8.toNat_ofNat'] <;> omega

/-- An unbroken text has no byte below 32. -/
theorem le_of_mem_bytes {s : String} (h : Unbroken s.toList) : ∀ b ∈ bytes s, 32 ≤ b.toNat := by
  intro b hb
  rw [bytes_eq] at hb
  obtain ⟨c, hc, hb⟩ := List.mem_flatMap.1 hb
  exact le_of_mem_utf8EncodeChar (h c hc) hb

end Text

namespace Wire

/-! ### Documents -/

namespace Message

variable {m m' : Message}

/-- Whether the numbers of a message have their bits, and those in a result are whole. -/
def Fits : Message → Prop
  | .showOverlay overlay _ => overlay.Fits
  | .updateOverlay overlay => overlay.Fits
  | .hideOverlay overlay => overlay.Fits
  | .navigateHome _ => True
  | .clearRecents _ => True
  | .reply id result => id ≤ Number.word64 ∧ Json.Plain result
  | .error id _ => ∀ n, id = some n → n ≤ Number.word64

/-- The members of a message that fits are plain. -/
theorem plain_members (h : m.Fits) : ∀ p ∈ m.members, Json.Plain p.2 := by
  cases m with
  | showOverlay overlay text =>
    exact List.forall_mem_cons.2 ⟨Overlay.plain_toJson h,
      List.forall_mem_singleton.2 (Json.plain_text text)⟩
  | updateOverlay overlay => exact List.forall_mem_singleton.2 (Overlay.plain_toJson h)
  | hideOverlay overlay => exact List.forall_mem_singleton.2 (Overlay.plain_toJson h)
  | navigateHome reason => exact List.forall_mem_singleton.2 (HomeReason.plain_toJson reason)
  | clearRecents category => exact List.forall_mem_singleton.2 (Json.plain_text category.name)
  | reply id result =>
    exact List.forall_mem_cons.2 ⟨.natural h.1, List.forall_mem_singleton.2 h.2⟩
  | error id text =>
    have htext : ∀ p ∈ [("message", Json.text text)], Json.Plain p.2 :=
      List.forall_mem_singleton.2 (Json.plain_text text)
    cases id with
    | none => exact htext
    | some n => exact List.forall_mem_cons.2 ⟨.natural (h n rfl), htext⟩

theorem plain_toJson (h : m.Fits) : Json.Plain m.toJson :=
  Json.plain_record (List.forall_mem_cons.2 ⟨Json.plain_text m.tag, plain_members h⟩)

/-- The line of a message is a line. -/
theorem unbroken_line (h : m.Fits) : Text.Unbroken m.line.toList := by
  rw [line, Json.compact, String.toList_ofList]
  exact Json.unbroken_compact (plain_toJson h)

/-- The line of a message is read as its tag and its members. -/
theorem read_line (h : m.Fits) :
    Json.read m.line.toList = some (.record (("type", .text m.tag) :: m.members)) :=
  Json.read_compact (plain_toJson h)

/-! ### Different messages -/

/-- The tag and the members make up a message. -/
theorem eq_of_members (h : m.Fits) (h' : m'.Fits) (htag : m.tag = m'.tag)
    (hmembers : m.members = m'.members) : m = m' := by
  -- A message of another kind has another tag, so one case is left for each kind.
  cases m with
  | showOverlay o text =>
    cases m' with
    | showOverlay o' text' =>
      have hfields : o.toJson = o'.toJson ∧ Json.text text = Json.text text' := by
        simpa [members] using hmembers
      rw [Overlay.toJson_inj h h' hfields.1, Json.text_inj hfields.2]
    | _ => exact absurd htag (by simp [tag])
  | updateOverlay o =>
    cases m' with
    | updateOverlay o' =>
      have hoverlay : o.toJson = o'.toJson := by simpa [members] using hmembers
      rw [Overlay.toJson_inj h h' hoverlay]
    | _ => exact absurd htag (by simp [tag])
  | hideOverlay o =>
    cases m' with
    | hideOverlay o' =>
      have hoverlay : o.toJson = o'.toJson := by simpa [members] using hmembers
      rw [Overlay.toJson_inj h h' hoverlay]
    | _ => exact absurd htag (by simp [tag])
  | navigateHome r =>
    cases m' with
    | navigateHome r' =>
      have hreason : r.toJson = r'.toJson := by simpa [members] using hmembers
      rw [HomeReason.toJson_inj hreason]
    | _ => exact absurd htag (by simp [tag])
  | clearRecents c =>
    cases m' with
    | clearRecents c' =>
      have hcategory : c.toJson = c'.toJson := by simpa [members] using hmembers
      rw [Category.toJson_inj hcategory]
    | _ => exact absurd htag (by simp [tag])
  | reply id result =>
    cases m' with
    | reply id' result' =>
      have hfields : Json.natural id = Json.natural id' ∧ result = result' := by
        simpa [members] using hmembers
      rw [Json.natural_inj hfields.1, hfields.2]
    | _ => exact absurd htag (by simp [tag])
  | error id text =>
    cases m' with
    | error id' text' =>
      have hfields : id.map Json.natural = id'.map Json.natural ∧
          Json.text text = Json.text text' := by
        -- Without its number a message has a member less.
        cases id <;> cases id' <;> simp_all [members, Json.member?]
      rw [Option.map_injective (fun _ _ => Json.natural_inj) hfields.1, Json.text_inj hfields.2]
    | _ => exact absurd htag (by simp [tag])

/-- Two messages have two documents. -/
theorem toJson_inj (h : m.Fits) (h' : m'.Fits) (hjson : m.toJson = m'.toJson) : m = m' := by
  obtain ⟨htag, hmembers⟩ := List.cons.inj (Json.record_inj hjson)
  exact eq_of_members h h' (Json.text_inj (Prod.mk.inj htag).2) hmembers

/-- Two messages have two lines. -/
theorem line_inj (h : m.Fits) (h' : m'.Fits) (hline : m.line = m'.line) : m = m' := by
  have hread := read_line h
  rw [hline, read_line h'] at hread
  exact (toJson_inj h' h (Option.some.inj hread)).symm

end Message

/-! ### Streams -/

variable {ms : List Message}

/-- The first message is sent with a line feed behind it, and then come the others. -/
theorem bytes_cons (m : Message) (ms : List Message) :
    Text.bytes (written (m :: ms)) = Text.bytes m.line ++ 10 :: Text.bytes (written ms) := by
  rw [written, List.map_cons, String.join_cons, Text.bytes_append, Text.bytes_append,
    List.append_assoc]
  rfl

/-- The pieces between line feeds are the lines, and behind the last line feed there is nothing. -/
theorem splitOn_written (h : ∀ m ∈ ms, m.Fits) :
    (Text.bytes (written ms)).splitOn 10 = ms.map (fun m => Text.bytes m.line) ++ [[]] := by
  induction ms with
  | nil => rfl
  | cons m ms ih =>
    have hm : m.Fits := h m List.mem_cons_self
    -- Its line has no line feed, so the first piece ends where the line does.
    have hfeed : 10 ∉ Text.bytes m.line := fun hmem =>
      absurd (Text.le_of_mem_bytes (Message.unbroken_line hm) 10 hmem) (by decide)
    rw [bytes_cons, List.splitOn_append_cons_self_of_not_mem hfeed,
      ih fun m hm => h m (List.mem_cons_of_mem _ hm), List.map_cons, List.cons_append]

/-- The lines come from one list of messages only. -/
theorem eq_of_lines {ms' : List Message} (h : ∀ m ∈ ms, m.Fits) (h' : ∀ m ∈ ms', m.Fits)
    (hlines : ms.map (fun m => Text.bytes m.line) = ms'.map fun m => Text.bytes m.line) :
    ms = ms' := by
  -- On the messages, the first lines of both lists being the same.
  induction ms generalizing ms' with
  | nil => exact (List.map_eq_nil_iff.1 hlines.symm).symm
  | cons m ms ih =>
    cases ms' with
    | nil => cases hlines
    | cons m' ms' =>
      obtain ⟨hline, hrest⟩ := List.cons.inj hlines
      rw [List.forall_mem_cons] at h h'
      rw [Message.line_inj h.1 h'.1 (Text.bytes_inj hline), ih h.2 h'.2 hrest]

/-- **Framing is unambiguous.** What is sent consists of one line per message in their order, each
ended by a line feed; no line has a character below U+0020; each is read as an object of the tag and
the members of its message; and no other messages are sent as the same bytes. -/
theorem framing_unambiguous (h : ∀ m ∈ ms, m.Fits) :
    (Text.bytes (written ms)).splitOn 10 = ms.map (fun m => Text.bytes m.line) ++ [[]] ∧
      (∀ m ∈ ms, Text.Unbroken m.line.toList ∧
        Json.read m.line.toList = some (.record (("type", .text m.tag) :: m.members))) ∧
      ∀ ms' : List Message, (∀ m ∈ ms', m.Fits) →
        Text.bytes (written ms) = Text.bytes (written ms') → ms = ms' := by
  refine ⟨splitOn_written h,
    fun m hm => ⟨Message.unbroken_line (h m hm), Message.read_line (h m hm)⟩, ?_⟩
  intro ms' h' hbytes
  -- The same bytes fall into the same pieces, and both lists of lines are these pieces.
  have hpieces := splitOn_written h
  rw [hbytes, splitOn_written h'] at hpieces
  exact eq_of_lines h h' (List.append_cancel_right hpieces).symm

/-- A result whose name is made of what stands between names, with the smallest number there is. -/
def hostileResult : Json :=
  .object [(.text ['"', ':', '\\', '\x00'],
    .array [.null, .bool true, .number (.negative 9223372036854775808), .text "\n"])]

/-- Messages with a text that would be a reply on a line of its own, and with the largest
numbers. -/
def hostile : List Message :=
  [.error none "no\r\n\x7b\"type\":\"reply\",\"id\":0,\"result\":null\x7d\n",
    .reply 18446744073709551615 hostileResult,
    .showOverlay (.keyword "\n" 4294967295) ""]

/-- The messages that the text would come to. -/
def forged : List Message := [.error none "no\r", .reply 0 .null]

/-- Three messages that look like others are told apart from those, and from themselves in another
order. -/
theorem hostile_told_apart :
    (∀ m ∈ hostile, m.Fits) ∧ (∀ m ∈ forged, m.Fits) ∧
      (Text.bytes (written hostile)).splitOn 10 =
        hostile.map (fun m => Text.bytes m.line) ++ [[]] ∧
      Text.bytes (written hostile) ≠ Text.bytes (written forged) ∧
      Text.bytes (written hostile) ≠ Text.bytes (written hostile.reverse) := by
  have hitems : ∀ j ∈ [Json.null, .bool true, .number (.negative 9223372036854775808),
      .text "\n"], Json.Plain j := by
    simp [Json.Plain.null, Json.Plain.bool, Json.Plain.negative, Json.plain_text]
  have hresult : Json.Plain hostileResult :=
    .object (List.forall_mem_singleton.2 ⟨_, rfl⟩) (List.forall_mem_singleton.2 (.array hitems))
  have hhostile : ∀ m ∈ hostile, m.Fits := by
    simp [hostile, Message.Fits, Overlay.Fits, hresult, Number.word64, Number.word32]
  have hforged : ∀ m ∈ forged, m.Fits := by
    simp [forged, Message.Fits, Json.Plain.null]
  obtain ⟨hpieces, -, honly⟩ := framing_unambiguous hhostile
  refine ⟨hhostile, hforged, hpieces, fun h => ?_, fun h => ?_⟩
  · exact absurd (congrArg List.length (honly forged hforged h)) (by decide)
  · -- The order counts: the first message of the one list is the last one of the other.
    have hreverse : ∀ m ∈ hostile.reverse, m.Fits := fun m hm =>
      hhostile m (List.mem_reverse.1 hm)
    cases honly hostile.reverse hreverse h

/-- Whether a character is a control character: those of ASCII, and the block behind them. -/
def IsControl (c : Char) : Prop := c.toNat < 0x20 ∨ 0x7f ≤ c.toNat ∧ c.toNat < 0xa0

/-- The last control character of ASCII is no character that has to be escaped. -/
theorem delete_unescaped :
    ¬ ∀ ms : List Message, (∀ m ∈ ms, m.Fits) →
      ∀ m ∈ ms, ∀ c ∈ m.line.toList, ¬ IsControl c := by
  intro h
  -- The name of an app is a place where it may stand.
  have hmem : '\x7f' ∈ (Message.hideOverlay (.appLock "\x7f")).line.toList := by decide +kernel
  exact h [.hideOverlay (.appLock "\x7f")] (List.forall_mem_singleton.2 trivial) _
    List.mem_cons_self '\x7f' hmem (by unfold IsControl; decide)

end Wire

end Warden
