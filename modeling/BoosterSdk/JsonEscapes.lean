/-
This file says which strings the JSON library can write and what it writes for them.

The states of the table-driven decoder are the ranges of bytes still awaited, so that
it accepts exactly the encodings of scalar values and knows each one's value at its
last byte. A string is therefore written, with its scalar values escaped one by one,
exactly when its bytes are UTF-8, and the buffer it goes through never overflows.
-/

import BoosterSdk.JsonSerializer

namespace Nlohmann.Serializer

open Utf8

/-! ### The decoder -/

/-- The class of a byte. -/
def byteClass (byte : UInt8) : UInt8 :=
  if byte.toNat ≤ 0x7F then 0
  else if byte.toNat ≤ 0x8F then 1
  else if byte.toNat ≤ 0x9F then 9
  else if byte.toNat ≤ 0xBF then 7
  else if byte.toNat ≤ 0xC1 then 8
  else if byte.toNat ≤ 0xDF then 2
  else if byte.toNat = 0xE0 then 10
  else if byte.toNat = 0xED then 4
  else if byte.toNat ≤ 0xEF then 3
  else if byte.toNat = 0xF0 then 11
  else if byte.toNat ≤ 0xF3 then 6
  else if byte.toNat = 0xF4 then 5
  else 8

/-- A state that awaits bytes: the classes of the next byte, the range they make up, the ranges of
the bytes after it, and the state it leads to. -/
structure Waiting where
  state : UInt8
  classes : List UInt8
  range : ByteRange
  ranges : List ByteRange
  next : UInt8

def waiting : List Waiting :=
  [⟨2, [1, 7, 9], tail, [], 0⟩, ⟨3, [1, 7, 9], tail, [tail], 2⟩,
    ⟨4, [7], ⟨0xA0, 0xBF⟩, [tail], 2⟩, ⟨5, [1, 9], ⟨0x80, 0x9F⟩, [tail], 2⟩,
    ⟨6, [7, 9], ⟨0x90, 0xBF⟩, [tail, tail], 3⟩, ⟨7, [1, 7, 9], tail, [tail, tail], 3⟩,
    ⟨8, [1], ⟨0x80, 0x8F⟩, [tail, tail], 3⟩]

/-- The state that a byte of a class leads to. -/
def nextState (state type : UInt8) : UInt8 :=
  if state = utf8Accept then [0, 1, 2, 3, 5, 8, 7, 1, 1, 1, 4, 6].getD type.toNat utf8Reject
  else (waiting.find? (·.state = state)).elim utf8Reject fun entry =>
    if type ∈ entry.classes then entry.next else utf8Reject

/-- The table has the classes of all bytes and the transitions from all states. -/
theorem utf8d_toList : utf8d.toList =
    (List.range 256).map (fun byte => byteClass (UInt8.ofNat byte)) ++
      (List.range 144).map (fun entry =>
        nextState (UInt8.ofNat (entry / 16)) (UInt8.ofNat (entry % 16))) := by
  decide +kernel

theorem utf8d_class (byte : UInt8) : utf8d.getD byte.toNat 0 = byteClass byte := by
  have bound := byte.toNat_lt
  rw [Array.getD_eq_getD_getElem?, ← Array.getElem?_toList, utf8d_toList,
    List.getElem?_append_left (by simpa using bound), List.getElem?_map,
    List.getElem?_range bound, Option.map_some, Option.getD_some, UInt8.ofNat_toNat]

theorem utf8d_next {state type : UInt8} (known : state.toNat ≤ 8) (small : type.toNat < 16) :
    utf8d.getD (256 + state.toNat * 16 + type.toNat) 0 = nextState state type := by
  have bound : state.toNat * 16 + type.toNat < 144 := by omega
  rw [Array.getD_eq_getD_getElem?, ← Array.getElem?_toList, utf8d_toList,
    List.getElem?_append_right (by rw [List.length_map, List.length_range]; omega),
    List.length_map, List.length_range, Nat.add_assoc, Nat.add_sub_cancel_left,
    List.getElem?_map, List.getElem?_range bound, Option.map_some, Option.getD_some,
    show (state.toNat * 16 + type.toNat) / 16 = state.toNat by omega,
    show (state.toNat * 16 + type.toNat) % 16 = type.toNat by omega, UInt8.ofNat_toNat,
    UInt8.ofNat_toNat]

theorem byteClass_lt (byte : UInt8) : (byteClass byte).toNat < 12 := by
  obtain ⟨⟨value⟩⟩ := byte
  revert value
  decide +kernel

/-- The next state, for a state the decoder can be in. -/
theorem decode_state {decoder : Decoder} (known : decoder.state.toNat ≤ 8) (byte : UInt8) :
    (decode decoder byte).state = nextState decoder.state (byteClass byte) := by
  unfold decode
  dsimp only
  rw [utf8d_class, utf8d_next known (by have small := byteClass_lt byte; omega)]

/-- The ranges of the bytes that a state awaits; none for the state that rejects. -/
def awaited (state : UInt8) : Option (List ByteRange) :=
  if state = utf8Accept then some []
  else (waiting.find? (·.state = state)).map fun entry => entry.range :: entry.ranges

theorem awaited_eq_nil {state : UInt8} (waits : awaited state = some []) : state = utf8Accept := by
  unfold awaited at waits
  split at waits
  · assumption
  · obtain ⟨_, _, impossible⟩ := Option.map_eq_some_iff.mp waits
    cases impossible

/-- The entry of a state that awaits bytes. -/
theorem awaited_eq_cons {state : UInt8} {range : ByteRange} {ranges : List ByteRange}
    (waits : awaited state = some (range :: ranges)) :
    state ≠ utf8Accept ∧ ∃ entry ∈ waiting, waiting.find? (·.state = state) = some entry ∧
      entry.range = range ∧ entry.ranges = ranges := by
  unfold awaited at waits
  split at waits
  · cases waits
  · rename_i started
    obtain ⟨entry, found, same⟩ := Option.map_eq_some_iff.mp waits
    cases same
    exact ⟨started, entry, List.mem_of_find?_eq_some found, found, rfl, rfl⟩

/-- The classes of a state make up the range it awaits, and lead to a state that awaits the
others. -/
theorem waiting_spec : ∀ entry ∈ waiting, entry.state.toNat ≤ 8 ∧
    (0x80 ≤ entry.range.low ∧ entry.range.high ≤ 0xBF) ∧ awaited entry.next = some entry.ranges ∧
    ∀ byte : Fin 256, byteClass ⟨⟨byte⟩⟩ ∈ entry.classes ↔ entry.range.Holds ⟨⟨byte⟩⟩ := by
  decide +kernel

/-- A leading byte takes the decoder to the state that awaits the bytes that follow it. -/
theorem nextState_leading (byte : UInt8) :
    awaited (nextState utf8Accept (byteClass byte)) = following byte ∧
      (following byte = none → nextState utf8Accept (byteClass byte) = utf8Reject) := by
  obtain ⟨⟨value⟩⟩ := byte
  revert value
  decide +kernel

/-- A byte that is awaited takes the decoder on, and any other is rejected. -/
theorem decode_awaited {decoder : Decoder} {range : ByteRange} {ranges : List ByteRange}
    (waits : awaited decoder.state = some (range :: ranges)) (byte : UInt8) :
    decoder.state ≠ utf8Accept ∧ (range.Holds byte → tail.Holds byte) ∧
      (range.Holds byte → awaited (decode decoder byte).state = some ranges) ∧
      (¬ range.Holds byte → (decode decoder byte).state = utf8Reject) := by
  obtain ⟨started, entry, member, found, rfl, rfl⟩ := awaited_eq_cons waits
  obtain ⟨known, narrow, leads, classes⟩ := waiting_spec entry member
  have same : entry.state = decoder.state := by simpa using List.find?_some found
  have next : (decode decoder byte).state =
      if byteClass byte ∈ entry.classes then entry.next else utf8Reject := by
    rw [decode_state (same ▸ known), nextState, if_neg started, found]
    rfl
  have inRange : byteClass byte ∈ entry.classes ↔ entry.range.Holds byte := by
    obtain ⟨⟨value⟩⟩ := byte
    exact classes value
  rw [next]
  refine ⟨started, fun holds => holds.tail narrow.1 narrow.2, fun holds => ?_, fun outside => ?_⟩
  · rw [if_pos (inRange.mpr holds), leads]
  · rw [if_neg fun member => outside (inRange.mp member)]

/-- The same for a byte that comes first. -/
theorem decode_leading {decoder : Decoder} (ready : decoder.state = utf8Accept) (byte : UInt8) :
    awaited (decode decoder byte).state = following byte ∧
      (following byte = none → (decode decoder byte).state = utf8Reject) := by
  rw [decode_state (by rw [ready]; decide), ready]
  exact nextState_leading byte

/-- The bits of a leading byte that are part of the scalar value. -/
def leadingBits (byte : UInt8) : Nat :=
  if byte.toNat ≤ 0x7F then byte.toNat
  else if byte.toNat ≤ 0xDF then byte.toNat - 0xC0
  else if byte.toNat ≤ 0xEF then byte.toNat - 0xE0
  else byte.toNat - 0xF0

/-- The mask of a class takes them from the byte. -/
theorem leadingBits_spec (byte : UInt8) : (following byte).isSome = true →
    ((0xFF : UInt32) >>> (byteClass byte).toUInt32 &&& byte.toUInt32).toNat = leadingBits byte := by
  obtain ⟨⟨value⟩⟩ := byte
  revert value
  decide +kernel

theorem decode_leading_codepoint {decoder : Decoder} (ready : decoder.state = utf8Accept)
    {byte : UInt8} (leading : (following byte).isSome = true) :
    (decode decoder byte).codepoint.toNat = leadingBits byte := by
  unfold decode
  dsimp only
  rw [if_neg fun started => started ready, utf8d_class]
  exact leadingBits_spec byte leading

theorem tail_bits (byte : UInt8) : tail.Holds byte →
    (byte &&& 0x3F).toUInt32.toNat = byte.toNat - 0x80 := by
  obtain ⟨⟨value⟩⟩ := byte
  revert value
  decide +kernel

/-- The bits of a byte that is awaited are added to the code point. -/
theorem decode_codepoint {decoder : Decoder} (started : decoder.state ≠ utf8Accept)
    (small : decoder.codepoint.toNat < 2 ^ 26) {byte : UInt8} (awaitedByte : tail.Holds byte) :
    (decode decoder byte).codepoint.toNat =
      decoder.codepoint.toNat * 64 + (byte.toNat - 0x80) := by
  have low : byte.toNat - 0x80 < 2 ^ 6 := by
    rw [tail_holds] at awaitedByte
    omega
  unfold decode
  dsimp only
  rw [if_pos started, UInt32.toNat_or, tail_bits byte awaitedByte, UInt32.toNat_shiftLeft,
    Nat.or_comm]
  show decoder.codepoint.toNat <<< 6 % 2 ^ 32 ||| (byte.toNat - 0x80) = _
  rw [Nat.shiftLeft_eq, Nat.mod_eq_of_lt (by omega), ← Nat.shiftLeft_eq,
    ← Nat.shiftLeft_add_eq_or_of_lt low, Nat.shiftLeft_eq]

/-! ### Code points -/

/-- The value of bits followed by the bits of the bytes after a leading byte. -/
def valueFrom (bits : Nat) (rest : List UInt8) : Nat :=
  rest.foldl (fun value byte => value * 64 + (byte.toNat - 0x80)) bits

theorem valueFrom_cons (bits : Nat) (byte : UInt8) (rest : List UInt8) :
    valueFrom bits (byte :: rest) = valueFrom (bits * 64 + (byte.toNat - 0x80)) rest := by
  unfold valueFrom
  rw [List.foldl_cons]

/-- The value of a sequence is put together from the bits of its bytes. -/
theorem valueFrom_leadingBits {leading : UInt8} {rest : List UInt8}
    (sequence : Sequence leading rest) :
    valueFrom (leadingBits leading) rest = value leading rest := by
  unfold leadingBits
  cases sequence with
  | one ascii =>
    rw [if_pos ascii]
    rfl
  | two lead second =>
    rw [if_neg (by omega), if_pos lead.2]
    rfl
  | three lead short surrogate second =>
    rw [if_neg (by omega), if_neg (by omega), if_pos lead.2, value_three]
    show ((_ - 0xE0) * 64 + _) * 64 + _ = _
    omega
  | four lead short large second =>
    rw [if_neg (by omega), if_neg (by omega), if_neg (by omega), value_four]
    show (((_ - 0xF0) * 64 + _) * 64 + _) * 64 + _ = _
    omega

theorem leadingBits_lt (leading : UInt8) : leadingBits leading < 2 ^ 8 := by
  have bound := leading.toNat_lt
  unfold leadingBits
  split
  · omega
  · split
    · omega
    · split <;> omega

/-! ### One scalar value -/

/-- What is written for a scalar value. -/
def escaped (scalar : Char) : List UInt8 := escape scalar.val (String.utf8EncodeChar scalar)

/-- What has been put out so far, in the buffer or from it. -/
def Escaping.text (self : Escaping) : List UInt8 := self.written ++ self.buffer

/-- A code point beyond ASCII is not escaped. -/
theorem escape_large {codepoint : UInt32} (large : 0x80 ≤ codepoint.toNat) (bytes : List UInt8) :
    escape codepoint bytes = bytes := by
  have other : ∀ small : UInt32, small.toNat < 0x80 → codepoint ≠ small := by
    rintro small bound rfl
    omega
  have above : ¬ codepoint ≤ 0x1F := by
    rw [UInt32.le_iff_toNat_le]
    exact Nat.not_le.mpr (Nat.lt_of_lt_of_le (by decide) large)
  unfold escape
  rw [if_neg (other _ (by decide)), if_neg (other _ (by decide)), if_neg (other _ (by decide)),
    if_neg (other _ (by decide)), if_neg (other _ (by decide)), if_neg (other _ (by decide)),
    if_neg (other _ (by decide)), if_neg above]

/-- One byte of a string, by where it leaves the decoder. -/
inductive Escaping.Next (self : Escaping) (byte : UInt8) : Except Thrown Escaping → Prop where
  | accepted {later : Escaping} (ready : later.decoder = decode self.decoder byte)
      (state : (decode self.decoder byte).state = utf8Accept)
      (text : later.text = self.text ++ escape (decode self.decoder byte).codepoint [byte])
      (room : later.buffer.length + 13 ≤ bufferSize) : Next self byte (.ok later)
  | waiting {later : Escaping} (ready : later.decoder = decode self.decoder byte)
      (state : (decode self.decoder byte).state ≠ utf8Accept ∧
        (decode self.decoder byte).state ≠ utf8Reject)
      (buffer : later.buffer = self.buffer ++ [byte]) (text : later.text = self.text ++ [byte]) :
      Next self byte (.ok later)
  | rejected {what : String} (state : (decode self.decoder byte).state = utf8Reject) :
      Next self byte (.error (typeError 316 what))

theorem Escaping.next_spec (self : Escaping) (index : Nat) (byte : UInt8) :
    self.Next byte (self.next index byte) := by
  unfold Escaping.next
  dsimp only
  split
  · rename_i accepts
    split
    · refine .accepted rfl accepts ?_ (show 13 ≤ bufferSize by decide)
      show (self.written ++ (self.buffer ++ _)) ++ [] = (self.written ++ self.buffer) ++ _
      rw [List.append_nil, List.append_assoc]
    · refine .accepted rfl accepts ?_ ?_
      · show self.written ++ (self.buffer ++ _) = (self.written ++ self.buffer) ++ _
        rw [List.append_assoc]
      · dsimp only
        have size : bufferSize = 512 := rfl
        omega
  · rename_i waits
    split
    · rename_i rejects
      exact .rejected rejects
    · rename_i goes
      exact .waiting rfl ⟨waits, goes⟩ rfl (List.append_assoc ..).symm

theorem awaited_reject : awaited utf8Reject = none := by decide

/-- A state that awaits bytes goes on. -/
theorem awaited_goes {state : UInt8} {range : ByteRange} {ranges : List ByteRange}
    (waits : awaited state = some (range :: ranges)) :
    state ≠ utf8Accept ∧ state ≠ utf8Reject := by
  constructor
  · rintro rfl
    cases waits
  · rintro rfl
    rw [awaited_reject] at waits
    cases waits

theorem Escaping.run_cons {self later : Escaping} {index : Nat} {byte : UInt8}
    (goes : self.next index byte = .ok later) (rest : List UInt8) :
    self.run index (byte :: rest) = later.run (index + 1) rest := by
  rw [Escaping.run, goes]
  rfl

/-- The bytes that are awaited complete a scalar value, and are put out as they are. -/
theorem Escaping.run_tail {ranges : List ByteRange} {bytes : List UInt8}
    (holds : List.Forall₂ ByteRange.Holds ranges bytes) (nonempty : ranges ≠ []) {self : Escaping}
    (waits : awaited self.decoder.state = some ranges)
    (small : (self.decoder.codepoint.toNat + 1) * 64 ^ ranges.length ≤ 2 ^ 32)
    (large : 0x80 ≤ valueFrom self.decoder.codepoint.toNat bytes) (index : Nat)
    (rest : List UInt8) :
    ∃ later : Escaping, self.run index (bytes ++ rest) = later.run (index + bytes.length) rest ∧
      later.decoder.state = utf8Accept ∧ later.text = self.text ++ bytes := by
  induction holds generalizing self index with
  | nil => exact absurd rfl nonempty
  | @cons range byte ranges bytes inRange holds inductionHypothesis =>
    obtain ⟨started, narrow, takes, _⟩ := decode_awaited waits byte
    have next := takes inRange
    have tailByte := narrow inRange
    have room : (self.decoder.codepoint.toNat + 1) * 64 ≤ 2 ^ 32 := by
      refine Nat.le_trans (Nat.mul_le_mul_left _ ?_) small
      exact Nat.le_self_pow (Nat.succ_ne_zero _) 64
    have codepoint := decode_codepoint started (by omega) tailByte
    have spec := self.next_spec index byte
    generalize outcome : self.next index byte = result at spec
    rw [List.cons_append]
    cases ranges with
    | nil =>
      cases holds
      have accepts := awaited_eq_nil next
      cases spec with
      | waiting ready state => exact absurd accepts state.1
      | rejected state => rw [accepts] at state; cases state
      | @accepted later ready state text room =>
        refine ⟨later, run_cons outcome _, ready ▸ state, ?_⟩
        rw [text, escape_large]
        rw [codepoint]
        exact large
    | cons second others =>
      have goes := awaited_goes next
      cases spec with
      | accepted ready state => exact absurd state goes.1
      | rejected state => exact absurd state goes.2
      | @waiting middle ready state buffer prior =>
        rw [run_cons outcome]
        have goesOn : awaited middle.decoder.state = some (second :: others) := ready ▸ next
        have bound : (middle.decoder.codepoint.toNat + 1) * 64 ^ (second :: others).length ≤
            2 ^ 32 := by
          refine Nat.le_trans ?_ small
          show _ ≤ (self.decoder.codepoint.toNat + 1) * 64 ^ ((second :: others).length + 1)
          rw [Nat.pow_succ', ← Nat.mul_assoc, ready, codepoint]
          refine Nat.mul_le_mul_right _ ?_
          rw [tail_holds] at tailByte
          omega
        have value : 0x80 ≤ valueFrom middle.decoder.codepoint.toNat bytes := by
          rw [ready, codepoint, ← valueFrom_cons]
          exact large
        obtain ⟨later, run, ready, text⟩ :=
          inductionHypothesis (List.cons_ne_nil _ _) goesOn bound value (index + 1)
        refine ⟨later, ?_, ready, ?_⟩
        · rw [run, List.length_cons, Nat.add_assoc, Nat.add_comm 1]
        · rw [text, prior, List.append_assoc, List.singleton_append]

/-- A scalar value is escaped when its bytes have been read. -/
theorem Escaping.run_scalar {self : Escaping} (ready : self.decoder.state = utf8Accept)
    (scalar : Char) (index : Nat) (rest : List UInt8) :
    ∃ later : Escaping, self.run index (String.utf8EncodeChar scalar ++ rest) =
        later.run (index + (String.utf8EncodeChar scalar).length) rest ∧
      later.decoder.state = utf8Accept ∧ later.text = self.text ++ escaped scalar := by
  obtain ⟨leading, bytes, encoded, sequence, same⟩ := encode_sequence scalar
  obtain ⟨ranges, row, holds⟩ := sequence.wellFormed
  have next := (decode_leading ready leading).1.trans row
  have bits := decode_leading_codepoint ready (by rw [row]; rfl : (following leading).isSome)
  have whole := valueFrom_leadingBits sequence
  rw [same] at whole
  have spec := self.next_spec index leading
  generalize outcome : self.next index leading = result at spec
  unfold escaped
  rw [encoded, List.cons_append]
  cases ranges with
  | nil =>
    cases holds
    have accepts := awaited_eq_nil next
    have codepoint : (decode self.decoder leading).codepoint = scalar.val :=
      UInt32.toNat_inj.mp (bits.trans whole)
    cases spec with
    | waiting ready state => exact absurd accepts state.1
    | rejected state => rw [accepts] at state; cases state
    | @accepted later ready state text room =>
      refine ⟨later, run_cons outcome _, ready ▸ state, ?_⟩
      rw [text, codepoint]
  | cons second others =>
    have goes := awaited_goes next
    cases spec with
    | accepted ready state => exact absurd state goes.1
    | rejected state => exact absurd state goes.2
    | @waiting started ready state buffer prior =>
      have several : bytes ≠ [] := by
        rintro rfl
        cases holds
      have large : 0x80 ≤ scalar.val.toNat := same ▸ sequence.beyond_ascii several
      have few := following_length leading _ row
      have waits : awaited started.decoder.state = some (second :: others) := ready ▸ next
      have small : (started.decoder.codepoint.toNat + 1) * 64 ^ (second :: others).length ≤
          2 ^ 32 := by
        have bound := leadingBits_lt leading
        rw [ready, bits]
        calc (leadingBits leading + 1) * 64 ^ (second :: others).length
          _ ≤ 2 ^ 8 * 64 ^ 3 := Nat.mul_le_mul bound (Nat.pow_le_pow_right (by decide) few)
          _ ≤ 2 ^ 32 := by norm_num
      have value : 0x80 ≤ valueFrom started.decoder.codepoint.toNat bytes := by
        rw [ready, bits, whole]
        exact large
      obtain ⟨later, run, ready, text⟩ :=
        run_tail holds (List.cons_ne_nil _ _) waits small value (index + 1) rest
      refine ⟨later, ?_, ready, ?_⟩
      · rw [run_cons outcome, run, List.length_cons, Nat.add_assoc, Nat.add_comm 1]
      · rw [text, prior, escape_large large, List.append_assoc, List.singleton_append]

/-! ### Strings -/

/-- Text that is UTF-8 is escaped one scalar value at a time. -/
theorem Escaping.run_encode (scalars : List Char) {self : Escaping}
    (ready : self.decoder.state = utf8Accept) (index : Nat) :
    ∃ later : Escaping, self.run index (encode scalars) = .ok later ∧
      later.decoder.state = utf8Accept ∧ later.text = self.text ++ scalars.flatMap escaped := by
  induction scalars generalizing self index with
  | nil => exact ⟨self, rfl, ready, (List.append_nil _).symm⟩
  | cons scalar rest inductionHypothesis =>
    obtain ⟨middle, first, accepts, text⟩ := run_scalar ready scalar index (encode rest)
    obtain ⟨later, run, final, all⟩ := inductionHypothesis accepts _
    refine ⟨later, first.trans run, final, ?_⟩
    rw [all, text, List.flatMap_cons, List.append_assoc]

/-- A string that is read to its end from a state that awaits bytes has them. -/
theorem Escaping.run_awaited {ranges : List ByteRange} {self final : Escaping}
    (waits : awaited self.decoder.state = some ranges) {bytes : List UInt8} {index : Nat}
    (run : self.run index bytes = .ok final) (accepts : final.decoder.state = utf8Accept) :
    ∃ tails rest, bytes = tails ++ rest ∧ List.Forall₂ ByteRange.Holds ranges tails := by
  induction bytes generalizing ranges self index with
  | nil =>
    cases run
    rw [accepts] at waits
    cases waits
    exact ⟨[], [], rfl, .nil⟩
  | cons byte bytes inductionHypothesis =>
    cases ranges with
    | nil => exact ⟨[], _, rfl, .nil⟩
    | cons range ranges =>
      obtain ⟨_, _, takes, refuses⟩ := decode_awaited waits byte
      have spec := self.next_spec index byte
      generalize outcome : self.next index byte = result at spec
      by_cases inRange : range.Holds byte
      · have next := takes inRange
        cases spec with
        | rejected state =>
          rw [state] at next
          cases next
        | @accepted later ready state =>
          rw [run_cons outcome] at run
          obtain ⟨tails, rest, split, holds⟩ := inductionHypothesis (ready ▸ next) run
          exact ⟨byte :: tails, rest, by rw [split, List.cons_append], .cons inRange holds⟩
        | waiting ready state =>
          rw [run_cons outcome] at run
          obtain ⟨tails, rest, split, holds⟩ := inductionHypothesis (ready ▸ next) run
          exact ⟨byte :: tails, rest, by rw [split, List.cons_append], .cons inRange holds⟩
      · have rejects := refuses inRange
        cases spec with
        | rejected state =>
          rw [Escaping.run, outcome] at run
          cases run
        | accepted ready state =>
          rw [state] at rejects
          cases rejects
        | waiting ready state => exact absurd rejects state.2

/-- A string that is read to its end is UTF-8. -/
theorem Escaping.encode_of_run {self final : Escaping} (ready : self.decoder.state = utf8Accept)
    {bytes : List UInt8} {index : Nat} (run : self.run index bytes = .ok final)
    (accepts : final.decoder.state = utf8Accept) : ∃ scalars, bytes = encode scalars := by
  induction size : bytes.length using Nat.strong_induction_on
    generalizing bytes self index with
  | _ length inductionHypothesis =>
    cases bytes with
    | nil => exact ⟨[], rfl⟩
    | cons leading bytes =>
      obtain ⟨next, refuses⟩ := decode_leading ready leading
      have spec := self.next_spec index leading
      generalize outcome : self.next index leading = result at spec
      cases row : following leading with
      | none =>
        have rejects := refuses row
        cases spec with
        | rejected state =>
          rw [Escaping.run, outcome] at run
          cases run
        | accepted ready state =>
          rw [state] at rejects
          cases rejects
        | waiting ready state => exact absurd rejects state.2
      | some ranges =>
        have follows : ∃ tails rest, bytes = tails ++ rest ∧
            List.Forall₂ ByteRange.Holds ranges tails := by
          rw [row] at next
          cases spec with
          | rejected state =>
            rw [state] at next
            cases next
          | accepted ready state =>
            rw [run_cons outcome] at run
            exact run_awaited (ready ▸ next) run accepts
          | waiting ready state =>
            rw [run_cons outcome] at run
            exact run_awaited (ready ▸ next) run accepts
        obtain ⟨tails, rest, rfl, holds⟩ := follows
        obtain ⟨scalar, encoded⟩ := (wellFormed_iff leading tails).mp ⟨ranges, row, holds⟩
        obtain ⟨later, goesOn, ready, _⟩ := run_scalar ready scalar index rest
        rw [encoded, List.cons_append] at goesOn
        rw [goesOn] at run
        have shorter : rest.length < length := by
          rw [← size, List.length_cons, List.length_append]
          omega
        obtain ⟨scalars, rfl⟩ := inductionHypothesis rest.length shorter ready run rfl
        refine ⟨scalar :: scalars, ?_⟩
        show _ = (scalar :: scalars).flatMap String.utf8EncodeChar
        rw [List.flatMap_cons, encoded]
        rfl

theorem Escaping.error_of_run {self : Escaping} {bytes : List UInt8} {index : Nat}
    {thrown : Thrown} (run : self.run index bytes = .error thrown) :
    ∃ what, thrown = typeError 316 what := by
  induction bytes generalizing self index with
  | nil => cases run
  | cons byte bytes inductionHypothesis =>
    have spec := self.next_spec index byte
    generalize outcome : self.next index byte = result at spec
    cases spec with
    | @rejected what state =>
      rw [Escaping.run, outcome] at run
      cases run
      exact ⟨what, rfl⟩
    | accepted ready state =>
      rw [run_cons outcome] at run
      exact inductionHypothesis run
    | waiting ready state =>
      rw [run_cons outcome] at run
      exact inductionHypothesis run

/-- What is written for text that is UTF-8. -/
theorem dumpEscaped_encode (scalars : List Char) :
    dumpEscaped ⟨encode scalars⟩ = .ok (scalars.flatMap escaped) := by
  have ready : (Escaping.decoder {}).state = utf8Accept := rfl
  obtain ⟨later, run, accepts, text⟩ := Escaping.run_encode scalars ready 0
  unfold dumpEscaped
  rw [run, Json.ok_bind, if_pos accepts]
  exact congrArg Except.ok text

/-- A string can be written exactly when it is UTF-8, and the only error is number 316. -/
theorem dumpEscaped_cases (text : Text) :
    (∃ scalars, text.bytes = encode scalars ∧ dumpEscaped text = .ok (scalars.flatMap escaped)) ∨
      (∀ scalars, text.bytes ≠ encode scalars) ∧
        ∃ what, dumpEscaped text = .error (typeError 316 what) := by
  by_cases valid : ∃ scalars, text.bytes = encode scalars
  · obtain ⟨scalars, same⟩ := valid
    refine .inl ⟨scalars, same, ?_⟩
    rw [← dumpEscaped_encode, ← same]
  · refine .inr ⟨fun scalars same => valid ⟨scalars, same⟩, ?_⟩
    unfold dumpEscaped
    cases run : Escaping.run {} 0 text.bytes with
    | error thrown =>
      obtain ⟨what, rfl⟩ := Escaping.error_of_run run
      exact ⟨what, rfl⟩
    | ok final =>
      rw [Json.ok_bind, if_neg fun accepts => valid (Escaping.encode_of_run rfl run accepts)]
      exact ⟨_, rfl⟩

/-! ### The buffer -/

/-- What the buffer may hold between two bytes depends on how many bytes are awaited. -/
structure Escaping.Fits (escaping : Escaping) (ranges : List ByteRange) : Prop where
  waits : awaited escaping.decoder.state = some ranges
  ready : ranges = [] → escaping.buffer.length + 13 ≤ bufferSize
  room : escaping.buffer.length + ranges.length + 9 ≤ bufferSize

theorem Escaping.fits_next {self later : Escaping} {index : Nat} {byte : UInt8}
    {ranges : List ByteRange} (fits : self.Fits ranges)
    (next : self.next index byte = .ok later) : ∃ ranges, later.Fits ranges := by
  have spec := self.next_spec index byte
  rw [next] at spec
  cases spec with
  | accepted ready state text room =>
    exact ⟨[], by rw [ready, state]; rfl, fun _ => room, by rw [List.length_nil]; omega⟩
  | waiting ready state buffer =>
    have size : later.buffer.length = self.buffer.length + 1 := by
      rw [buffer, List.length_append, List.length_singleton]
    cases ranges with
    | nil =>
      have room := fits.ready rfl
      obtain ⟨leads, refuses⟩ := decode_leading (awaited_eq_nil fits.waits) byte
      cases row : following byte with
      | none => exact absurd (refuses row) state.2
      | some ranges =>
        have few := following_length byte ranges row
        rw [row] at leads
        refine ⟨ranges, by rw [ready, leads], ?_, by omega⟩
        rintro rfl
        exact absurd (awaited_eq_nil leads) state.1
    | cons range ranges =>
      have room := fits.room
      rw [List.length_cons] at room
      obtain ⟨_, _, takes, refuses⟩ := decode_awaited fits.waits byte
      by_cases inRange : range.Holds byte
      · refine ⟨ranges, by rw [ready, takes inRange], ?_, by omega⟩
        rintro rfl
        exact absurd (awaited_eq_nil (takes inRange)) state.1
      · exact absurd (refuses inRange) state.2

theorem Escaping.fits_run {self later : Escaping} {index : Nat} {bytes : List UInt8}
    {ranges : List ByteRange} (fits : self.Fits ranges)
    (run : self.run index bytes = .ok later) : ∃ ranges, later.Fits ranges := by
  induction bytes generalizing self index ranges with
  | nil =>
    cases run
    exact ⟨ranges, fits⟩
  | cons byte bytes inductionHypothesis =>
    obtain ⟨middle, next, run⟩ := Json.bind_eq_ok run
    obtain ⟨ranges, fits⟩ := fits_next fits next
    exact inductionHypothesis fits run

theorem escape_length (codepoint : UInt32) (byte : UInt8) :
    (escape codepoint [byte]).length ≤ 6 := by
  unfold escape
  repeat' split
  all_goals exact Nat.le_of_ble_eq_true rfl

/-- Whatever a string begins with, the bytes that are put next fit into the buffer, together with
the terminator that `snprintf` puts after them. -/
theorem Escaping.buffer_room {bytes : List UInt8} {self : Escaping}
    (run : Escaping.run {} 0 bytes = .ok self) (byte : UInt8) :
    (self.buffer ++ escape (decode self.decoder byte).codepoint [byte]).length < bufferSize := by
  have fits : Escaping.Fits {} [] := ⟨rfl, fun _ => by decide, by decide⟩
  obtain ⟨ranges, later⟩ := fits_run fits run
  have room := later.room
  have few := escape_length (decode self.decoder byte).codepoint byte
  rw [List.length_append]
  omega

/-- A control character after two others. -/
theorem Escaping.buffer_room_afterText :
    ∃ self, Escaping.run {} 0 (encode ['é', '"']) = .ok self ∧
      (self.buffer ++ escape (decode self.decoder 0x1B).codepoint [0x1B]).length < bufferSize := by
  have ready : ({} : Escaping).decoder.state = utf8Accept := rfl
  obtain ⟨self, run, _, _⟩ := Escaping.run_encode ['é', '"'] ready 0
  exact ⟨self, run, Escaping.buffer_room run 0x1B⟩

end Nlohmann.Serializer
