import DeclSchema.Declared.Storage
import Mathlib

/-!
Text in a payload, put in and read back.

A payload has room for 80 bytes and no length of its own, so the end of a
text in it is the first zero byte. Everything about text in a payload is
then about one split of its bytes, into what stands before the first zero
byte and what stands after it (`text?_eq_some_iff`). A text can be put there
if its UTF-8 bytes hold no zero byte and leave room for one, which is to say
that the text has no zero character and at most 79 bytes. What is left of an
earlier payload cannot get into the way, since all of it is cleared first.

`storeText` is `setText` as it works on a packet that its caller holds: the
payload is cleared and the bytes are copied into it one by one. There a
failure could leave the packet half changed, and it does not.
-/

namespace DeclSchema.Declared

namespace Buffer

variable {n : Nat} {b : Buffer n} {bytes before : List UInt8} {text : String}

/-! ### Bytes over a buffer -/

theorem toList_write (b : Buffer n) {start : Nat} (h : start + bytes.length ≤ n) :
    (b.write start bytes).toList =
      b.toList.take start ++ bytes ++ b.toList.drop (start + bytes.length) := by
  induction bytes generalizing b start with
  | nil => simp [write]
  | cons byte rest ih =>
      rw [List.length_cons] at h
      have hlength : (b.toList.take start).length = start := by simp; omega
      have hset : b.toList.set start byte =
          b.toList.take start ++ byte :: b.toList.drop (start + 1) := by
        rw [List.set_eq_take_append_cons_drop, if_pos (by simp; omega)]
      have htake : (b.toList.set start byte).take (start + 1) = b.toList.take start ++ [byte] := by
        rw [hset, List.take_append, hlength, Nat.add_sub_cancel_left,
          List.take_of_length_le (by omega)]
        rfl
      have hdrop : (b.toList.set start byte).drop (start + (rest.length + 1)) =
          b.toList.drop (start + (rest.length + 1)) := List.drop_set_of_lt (by omega)
      rw [write, ih _ (by omega), Vector.toList_setIfInBounds, htake, Nat.add_assoc,
        Nat.add_comm 1, hdrop, List.length_cons, List.append_assoc (b.toList.take start),
        List.singleton_append]

theorem toList_write_filled (h : bytes.length ≤ n) (byte : UInt8) :
    ((filled n byte).write 0 bytes).toList =
      bytes ++ List.replicate (n - bytes.length) byte := by
  rw [toList_write _ (by omega)]
  simp [filled]

/-! ### UTF-8 -/

theorem encode_eq_flatMap (text : String) :
    encode text = text.toList.flatMap String.utf8EncodeChar := by
  rw [encode, String.toUTF8_eq_toByteArray, ← String.utf8Encode_toList, List.utf8Encode]
  simp

theorem length_encode (text : String) : (encode text).length = text.utf8ByteSize := rfl

theorem zero_eq_ofNat_iff {k : Nat} : 0 = UInt8.ofNat k ↔ k % 256 = 0 := by
  rw [← UInt8.toNat_inj, UInt8.toNat_ofNat', UInt8.toNat_zero, eq_comm]

/-- All bytes of a character that takes more than one have their highest bit
set. -/
theorem zero_mem_utf8EncodeChar {c : Char} : 0 ∈ String.utf8EncodeChar c ↔ c = '\x00' := by
  have hcode : c = '\x00' ↔ c.val.toNat = 0 := by
    rw [← Char.toNat_inj]
    rfl
  rw [hcode, String.utf8EncodeChar]
  split_ifs <;>
    simp only [List.mem_cons, List.not_mem_nil, or_false, zero_eq_ofNat_iff] <;> omega

theorem zero_mem_encode (text : String) : 0 ∈ encode text ↔ '\x00' ∈ text.toList := by
  simp [encode_eq_flatMap, zero_mem_utf8EncodeChar]

theorem decode?_eq_some_iff : decode? bytes = some text ↔ encode text = bytes := by
  simp only [decode?, String.fromUTF8?, encode, String.toUTF8_eq_toByteArray]
  constructor
  · intro h
    split at h
    · cases h
      rfl
    · cases h
  · rintro rfl
    exact dif_pos text.isValidUTF8

theorem decode?_eq_none_iff :
    decode? bytes = none ↔ ¬(ByteArray.mk bytes.toArray).IsValidUTF8 := by
  simp [decode?, String.fromUTF8?]

/-! ### The first zero byte -/

theorem takeWhile_bne_zero {after : List UInt8} (h : 0 ∉ before) :
    (before ++ 0 :: after).takeWhile (· != 0) = before := by
  rw [List.takeWhile_append_of_pos, List.takeWhile_cons_of_neg (by simp), List.append_nil]
  intro byte hbyte
  rw [bne_iff_ne]
  rintro rfl
  exact h hbyte

theorem beforeZero_eq_some_iff :
    b.beforeZero = some before ↔ ∃ after, b.toList = before ++ 0 :: after ∧ 0 ∉ before := by
  rw [beforeZero]
  constructor
  · intro h
    split at h
    · next hzero =>
        obtain ⟨front, after, hsplit, hfront⟩ :=
          List.eq_append_cons_of_mem (List.contains_iff_mem.mp hzero)
        rw [hsplit, takeWhile_bne_zero hfront, Option.some.injEq] at h
        subst h
        exact ⟨after, hsplit, hfront⟩
    · cases h
  · rintro ⟨after, hsplit, hbefore⟩
    rw [hsplit, takeWhile_bne_zero hbefore, if_pos (by simp)]

theorem beforeZero_eq_none_iff : b.beforeZero = none ↔ 0 ∉ b.toList := by
  simp [beforeZero]

theorem text?_eq_some_iff :
    b.text? = some text ↔
      ∃ after, b.toList = encode text ++ 0 :: after ∧ 0 ∉ encode text := by
  rw [text?, Option.bind_eq_some_iff]
  constructor
  · rintro ⟨before, hbefore, htext⟩
    obtain rfl := decode?_eq_some_iff.mp htext
    exact beforeZero_eq_some_iff.mp hbefore
  · intro h
    exact ⟨_, beforeZero_eq_some_iff.mpr h, decode?_eq_some_iff.mpr rfl⟩

end Buffer

namespace Packet

variable {p q : Packet} {text : String} {e : Error}

/-! ### Putting text in -/

theorem fits_iff (text : String) :
    fits text = true ↔ text.utf8ByteSize ≤ 79 ∧ '\x00' ∉ text.toList := by
  rw [fits, Bool.and_eq_true, decide_eq_true_eq, Buffer.length_encode, payloadSize,
    Bool.not_eq_true', ← Bool.not_eq_true, List.contains_iff_mem, Buffer.zero_mem_encode,
    Nat.lt_succ_iff]

theorem setText_eq_ok_iff :
    p.setText text = .ok q ↔ fits text = true ∧
      q = { p with payload := (Buffer.filled 80 0).write 0 (Buffer.encode text) } := by
  rw [setText]
  split
  · next hfits => simp [hfits, eq_comm]
  · next hfits => simp [hfits]

theorem setText_eq_error_iff :
    p.setText text = .error e ↔ fits text = false ∧ e = .invalidArgument "text" := by
  rw [setText]
  split
  · next hfits => simp [hfits]
  · next hfits => simp [hfits, eq_comm]

theorem toList_payload_of_setText (h : p.setText text = .ok q) :
    q.payload.toList = Buffer.encode text ++ List.replicate (80 - text.utf8ByteSize) 0 := by
  obtain ⟨hfits, rfl⟩ := setText_eq_ok_iff.mp h
  have hroom := ((fits_iff text).mp hfits).1
  exact Buffer.toList_write_filled (by rw [Buffer.length_encode]; omega) 0

theorem text?_of_setText (h : p.setText text = .ok q) : q.text? = some text := by
  obtain ⟨hfits, -⟩ := setText_eq_ok_iff.mp h
  obtain ⟨hroom, hzero⟩ := (fits_iff text).mp hfits
  have hpad : 80 - text.utf8ByteSize = 79 - text.utf8ByteSize + 1 := by omega
  rw [text?, Buffer.text?_eq_some_iff, Buffer.zero_mem_encode]
  refine ⟨List.replicate (79 - text.utf8ByteSize) 0, ?_, hzero⟩
  rw [toList_payload_of_setText h, hpad, List.replicate_succ]

/-- A text that was read from a packet can be put in again: there was room
for it and for the zero byte behind it. Only what stands behind that byte
is cleared. -/
theorem exists_setText_of_text? (h : p.text? = some text) :
    ∃ q after, p.setText text = .ok q ∧
      p.payload.toList = Buffer.encode text ++ 0 :: after ∧ 0 ∉ Buffer.encode text ∧
      q.payload.toList = Buffer.encode text ++ 0 :: List.replicate after.length 0 := by
  obtain ⟨after, hsplit, hzero⟩ := Buffer.text?_eq_some_iff.mp h
  have hlength : 80 = text.utf8ByteSize + (after.length + 1) := by
    have hsum := congrArg List.length hsplit
    rwa [Vector.length_toList, List.length_append, List.length_cons, Buffer.length_encode] at hsum
  have hfits : fits text = true := by
    rw [fits_iff, ← Buffer.zero_mem_encode]
    exact ⟨by omega, hzero⟩
  obtain ⟨q, hq⟩ : ∃ q, p.setText text = .ok q := ⟨_, setText_eq_ok_iff.mpr ⟨hfits, rfl⟩⟩
  refine ⟨q, after, hq, hsplit, hzero, ?_⟩
  rw [toList_payload_of_setText hq, hlength, Nat.add_sub_cancel_left, List.replicate_succ]

/-! ### In place -/

def copyBytes (start : Nat) : List UInt8 → ExceptT Error (StateM Packet) Unit
  | [] => return
  | byte :: rest => do
      modify fun p => p.write start [byte]
      copyBytes (start + 1) rest

/-- `setText` on a packet that the caller holds. -/
def storeText (text : String) : ExceptT Error (StateM Packet) Unit :=
  if fits text then do
    modify fun p => { p with payload := Buffer.filled 80 0 }
    copyBytes 0 (Buffer.encode text)
  else throw (.invalidArgument "text")

theorem run_copyBytes (p : Packet) (start : Nat) (bytes : List UInt8) :
    (copyBytes start bytes).run.run p = (.ok (), p.write start bytes) := by
  induction bytes generalizing p start with
  | nil => rfl
  | cons byte rest ih => exact ih (p.write start [byte]) (start + 1)

theorem run_storeText (p : Packet) (text : String) :
    (storeText text).run.run p =
      match p.setText text with
      | .ok q => (.ok (), q)
      | .error e => (.error e, p) := by
  rw [storeText, setText]
  split
  · exact run_copyBytes { p with payload := Buffer.filled 80 0 } 0 (Buffer.encode text)
  · rfl

/-! ### The round trip -/

theorem text?_eq_none_iff :
    p.text? = none ↔ 0 ∉ p.payload.toList ∨
      ∃ before after, p.payload.toList = before ++ 0 :: after ∧ 0 ∉ before ∧
        ¬(ByteArray.mk before.toArray).IsValidUTF8 := by
  rw [text?, Buffer.text?, ← Buffer.beforeZero_eq_none_iff]
  cases hbefore : p.payload.beforeZero with
  | none => simp
  | some before =>
      obtain ⟨after, hsplit, hzero⟩ := Buffer.beforeZero_eq_some_iff.mp hbefore
      simp only [Option.bind_some, Buffer.decode?_eq_none_iff, reduceCtorEq, false_or]
      constructor
      · intro hinvalid
        exact ⟨before, after, hsplit, hzero, hinvalid⟩
      · rintro ⟨before', after', hsplit', hzero', hinvalid⟩
        have hsame := Buffer.beforeZero_eq_some_iff.mpr ⟨after', hsplit', hzero'⟩
        rw [hbefore, Option.some.injEq] at hsame
        rwa [hsame]

/-- What a text becomes in a packet, whatever bytes the packet holds. It is
stored exactly if it has at most 79 bytes and no zero character, and then it
is all that the payload holds; else the packet stays as it is. Text that is
read from a packet can be stored again and only clears what stands behind
its zero byte. And a packet has no text exactly if it has no zero byte or if
the bytes before the first one are not UTF-8. -/
theorem payload_round_trip (p : Packet) :
    (∀ text, (∃ q, p.setText text = .ok q) ↔
      text.utf8ByteSize ≤ 79 ∧ '\x00' ∉ text.toList) ∧
    (∀ text e, p.setText text = .error e →
      e = .invalidArgument "text" ∧ (storeText text).run.run p = (.error e, p)) ∧
    (∀ text q, p.setText text = .ok q →
      (storeText text).run.run p = (.ok (), q) ∧ q.id = p.id ∧
      q.payload.toList = Buffer.encode text ++ List.replicate (80 - text.utf8ByteSize) 0 ∧
      q.text? = some text) ∧
    (∀ text, p.text? = some text →
      ∃ q before after, p.setText text = .ok q ∧ q.text? = some text ∧
        p.payload.toList = before ++ 0 :: after ∧ 0 ∉ before ∧
        q.payload.toList = before ++ 0 :: List.replicate after.length 0) ∧
    (p.text? = none ↔ 0 ∉ p.payload.toList ∨
      ∃ before after, p.payload.toList = before ++ 0 :: after ∧ 0 ∉ before ∧
        ¬(ByteArray.mk before.toArray).IsValidUTF8) := by
  refine ⟨fun text => ?_, fun text e h => ?_, fun text q h => ?_, fun text h => ?_,
    text?_eq_none_iff⟩
  · simp only [setText_eq_ok_iff, exists_and_left, exists_eq, and_true, fits_iff]
  · have hrun := run_storeText p text
    rw [h] at hrun
    exact ⟨(setText_eq_error_iff.mp h).2, hrun⟩
  · have hrun := run_storeText p text
    rw [h] at hrun
    obtain ⟨-, hq⟩ := setText_eq_ok_iff.mp h
    exact ⟨hrun, by rw [hq], toList_payload_of_setText h, text?_of_setText h⟩
  · obtain ⟨q, after, hq, hsplit, hzero, hpayload⟩ := exists_setText_of_text? h
    exact ⟨q, _, after, hq, text?_of_setText hq, hsplit, hzero, hpayload⟩

/-- A packet with a text, a zero byte, and a byte behind it that is not even
UTF-8. -/
def stalePacket : Packet :=
  (Packet.new 7).write 0 [0x68, 0x69, 0x00, 0xFF]

theorem stalePacket_round_trip :
    stalePacket.text? = some "hi" ∧
      (∃ q, stalePacket.setText "hi" = .ok q ∧ q ≠ stalePacket ∧ q.id = 7 ∧
        q.text? = some "hi") ∧
      (storeText "h\x00").run.run stalePacket = (.error (.invalidArgument "text"), stalePacket) := by
  obtain ⟨-, hfails, hstores, hagain, -⟩ := payload_round_trip stalePacket
  have htext : stalePacket.text? = some "hi" := by decide +kernel
  have hrefused : stalePacket.setText "h\x00" = .error (.invalidArgument "text") := by
    decide +kernel
  obtain ⟨q, before, after, hq, hread, -⟩ := hagain "hi" htext
  refine ⟨htext, ⟨q, hq, ?_, (hstores _ _ hq).2.1, hread⟩, (hfails _ _ hrefused).2⟩
  rintro rfl
  exact absurd hq (by decide +kernel)

end Packet

end DeclSchema.Declared
