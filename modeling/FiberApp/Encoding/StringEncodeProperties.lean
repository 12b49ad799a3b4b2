import FiberApp.Encoding.StringEncode

/-! Each pair of escapes reads back what it wrote, and never cuts an escape in two. -/

set_option autoImplicit false

namespace FiberApp.Encoding

open FiberApp.Foundation

section Bytes

theorem forall_byte {property : UInt8 → Prop} (all : ∀ byte < 256, property (UInt8.ofNat byte)) :
    ∀ byte, property byte := by
  intro byte
  have here := all byte.toNat byte.toNat_lt
  rwa [UInt8.ofNat_toNat] at here

theorem hexDecode_hexEncode (ch : UInt8) :
    hexDecode (hexEncode (ch &&& 0xF)) = some (ch &&& 0xF) := by
  revert ch
  apply forall_byte
  decide +kernel

theorem nibbles_join (ch : UInt8) : (ch >>> 4 &&& 0xF) <<< 4 ||| (ch &&& 0xF) = ch := by
  revert ch
  apply forall_byte
  decide +kernel

theorem readHexPair_digits (ch : UInt8) (tail : List UInt8) :
    readHexPair (hexEncode (ch >>> 4 &&& 0xF) :: hexEncode (ch &&& 0xF) :: tail) =
      some (ch, tail) := by
  simp [readHexPair, hexDecode_hexEncode, nibbles_join]

theorem plus_isUrlUnsafe : isUrlUnsafe '+'.toUInt8 = true := by decide

theorem hexEncode_not_isUrlUnsafe (ch : UInt8) : isUrlUnsafe (hexEncode (ch &&& 0xF)) = false := by
  revert ch
  apply forall_byte
  decide +kernel

theorem percent_isUrlUnsafe : isUrlUnsafe '%'.toUInt8 = true := by decide

end Bytes

theorem escape_code (illegal : List UInt8) (escape : UInt8) :
    UnitCode (escapeUnit illegal escape) (unescapeNext escape) := by
  intro ch tail
  by_cases escaped : ch = escape ∨ strchr illegal ch
  · exact ⟨escape, [ch], if_pos escaped, by simp [unescapeNext]⟩
  · have plain : ch ≠ escape := fun same => escaped (.inl same)
    exact ⟨ch, [], if_neg escaped, if_neg plain⟩

theorem encode_code (illegal : List UInt8) (escape : UInt8) :
    UnitCode (encodeUnit illegal escape) (decodeNext escape) := by
  intro ch tail
  by_cases plain : ch ≠ escape ∧ strchr illegal ch = false
  · exact ⟨ch, [], if_pos plain, if_neg plain.1⟩
  · refine ⟨escape, _, if_neg plain, ?_⟩
    simp [decodeNext, readHexPair_digits]

theorem urlEncode_code : UnitCode urlEncodeUnit urlDecodeNext := by
  intro ch tail
  by_cases notSafe : isUrlUnsafe ch
  · refine ⟨'%'.toUInt8, _, if_pos notSafe, ?_⟩
    have apart : '%'.toUInt8 ≠ '+'.toUInt8 := by decide
    simp [urlDecodeNext, apart, readHexPair_digits]
  · -- Both bytes that the reader treats apart are unsafe, so this is neither.
    have notPlus : ch ≠ '+'.toUInt8 := fun same => notSafe (same ▸ plus_isUrlUnsafe)
    have notPercent : ch ≠ '%'.toUInt8 := fun same => notSafe (same ▸ percent_isUrlUnsafe)
    refine ⟨ch, [], if_neg notSafe, ?_⟩
    rw [urlDecodeNext, if_neg notPlus, if_neg notPercent, List.nil_append]

/-- What `write` puts into a buffer of `buflen` bytes is the code of a prefix of the source, unit
by unit. It leaves room for the zero, it is the code of all of the source when that fits, and
`read` gives the prefix back. A buffer of no bytes is left alone. -/
def ReadsBack (unit : UInt8 → List UInt8) (write read : Nat → List UInt8 → List UInt8) : Prop :=
  ∀ source, write 0 source = [] ∧ read 0 source = [] ∧
    ∀ buflen, 0 < buflen → ∃ kept, kept <+: source ∧
      write buflen source = kept.flatMap unit ∧ (write buflen source).length < buflen ∧
      (kept = source ↔ (source.flatMap unit).length < buflen) ∧
      ∀ room, kept.length < room → read room (write buflen source) = kept

theorem readsBack_of_code {unit : UInt8 → List UInt8}
    {next : UInt8 → List UInt8 → UInt8 × List UInt8} (code : UnitCode unit next) :
    ReadsBack unit (fun buflen source => writeUnits unit buflen source [])
      (fun buflen source => readUnits next buflen source.length source []) :=
  fun source => ⟨writeUnits_zero source, readUnits_zero source.length source,
    fun _ space => code.reads_back source space⟩

theorem escapes_read_back :
    (∀ illegal mark, ReadsBack (escapeUnit illegal mark) (escape illegal mark) (unescape mark)) ∧
    (∀ illegal mark, ReadsBack (encodeUnit illegal mark) (encode illegal mark) (decode mark)) ∧
    ReadsBack urlEncodeUnit urlEncode urlDecode :=
  ⟨fun illegal mark => readsBack_of_code (escape_code illegal mark),
    fun illegal mark => readsBack_of_code (encode_code illegal mark),
    readsBack_of_code urlEncode_code⟩

theorem urlEncodeUnit_length (ch : UInt8) : (urlEncodeUnit ch).length ≤ 3 := by
  by_cases notSafe : isUrlUnsafe ch <;> simp [urlEncodeUnit, notSafe, hexUnit]

theorem urlEncode_units_length (source : List UInt8) :
    (source.flatMap urlEncodeUnit).length ≤ source.length * 3 := by
  induction source with
  | nil => exact Nat.le_refl 0
  | cons ch rest ih =>
      have short := urlEncodeUnit_length ch
      rw [List.flatMap_cons, List.length_append, List.length_cons]
      omega

/-- With the buffers that the two functions ask for, nothing is lost. -/
theorem urlDecode_urlEncode (source : List UInt8) :
    urlDecode (urlDecodeSize source.length) (urlEncode (urlEncodeSize source.length) source) =
      source := by
  obtain ⟨kept, -, -, -, whole, back⟩ :=
    urlEncode_code.reads_back source (Nat.succ_pos (source.length * 3))
  have fits := urlEncode_units_length source
  obtain rfl : kept = source := whole.mpr (by omega)
  exact back _ (Nat.lt_succ_self _)

theorem urlEncodeUnit_safe {ch byte : UInt8} (member : byte ∈ urlEncodeUnit ch) :
    byte = '%'.toUInt8 ∨ isUrlUnsafe byte = false := by
  by_cases notSafe : isUrlUnsafe ch
  · rw [urlEncodeUnit, if_pos notSafe, hexUnit] at member
    simp only [List.mem_cons, List.not_mem_nil, or_false] at member
    rcases member with rfl | rfl | rfl
    · exact .inl rfl
    · exact .inr (hexEncode_not_isUrlUnsafe (ch >>> 4))
    · exact .inr (hexEncode_not_isUrlUnsafe ch)
  · rw [urlEncodeUnit, if_neg notSafe] at member
    obtain rfl := List.mem_singleton.mp member
    exact .inr (Bool.eq_false_iff.mpr notSafe)

/-- The only unsafe byte of an encoded text is the mark itself. -/
theorem urlEncode_safe {buflen : Nat} {source : List UInt8} (space : 0 < buflen) {byte : UInt8}
    (member : byte ∈ urlEncode buflen source) :
    byte = '%'.toUInt8 ∨ isUrlUnsafe byte = false := by
  have empty : ([] : List UInt8).length < buflen := space
  obtain ⟨kept, -, same, -⟩ := writeUnits_spec source empty
  rw [urlEncode, same, List.nil_append] at member
  obtain ⟨ch, -, here⟩ := List.mem_flatMap.mp member
  exact urlEncodeUnit_safe here

end FiberApp.Encoding
