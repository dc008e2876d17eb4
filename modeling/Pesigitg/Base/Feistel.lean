import Pesigitg.Base.Bytes
import Mathlib.Data.List.Induction
import Mathlib.Logic.Function.Basic

/-!
# Alternating Feistel networks

A network masks its two halves in turn, each with a value derived from the
other. Masking is only assumed to undo itself, so the halves may have different
widths and the derived values need not be invertible. `decipher_encipher` and
`encipher_decipher` make any number of passes a permutation.
-/

namespace Pesigitg.Base

/-- Two kinds of halves, self-inverse masks on each, and the value each pass
derives from the half it does not change. -/
structure FeistelNetwork (Left Right Mask : Type) where
  maskLeft : Mask → Left → Left
  maskRight : Mask → Right → Right
  fromLeft : Nat → Left → Mask
  fromRight : Nat → Right → Mask
  maskLeft_involutive : ∀ mask, Function.Involutive (maskLeft mask)
  maskRight_involutive : ∀ mask, Function.Involutive (maskRight mask)

namespace FeistelNetwork

variable {Left Right Mask : Type} (network : FeistelNetwork Left Right Mask)

/-- Even passes change the left half, odd passes the right one. -/
def pass (index : Nat) (state : Left × Right) : Left × Right :=
  if index % 2 = 0 then
    (network.maskLeft (network.fromRight index state.2) state.1, state.2)
  else
    (state.1, network.maskRight (network.fromLeft index state.1) state.2)

/-- Passes `0, 1, …, count - 1`. -/
def encipher : Nat → Left × Right → Left × Right
  | 0, state => state
  | count + 1, state => network.pass count (encipher count state)

/-- Passes `count - 1, …, 1, 0`. -/
def decipher : Nat → Left × Right → Left × Right
  | 0, state => state
  | count + 1, state => decipher count (network.pass count state)

/-- A pass leaves the half it derives its mask from alone, so it undoes itself. -/
theorem pass_involutive (index : Nat) : Function.Involutive (network.pass index) := by
  rintro ⟨left, right⟩
  by_cases even : index % 2 = 0
  · simp [pass, even, network.maskLeft_involutive _ left]
  · simp [pass, even, network.maskRight_involutive _ right]

/-- Undoing the passes in the other order gives the plaintext back. -/
theorem decipher_encipher (count : Nat) (state : Left × Right) :
    network.decipher count (network.encipher count state) = state := by
  induction count with
  | zero => rfl
  | succ count ih =>
    rw [encipher, decipher, network.pass_involutive count]
    exact ih

/-- Every state is the image of its decipherment, so the network is onto. -/
theorem encipher_decipher (count : Nat) (state : Left × Right) :
    network.encipher count (network.decipher count state) = state := by
  induction count generalizing state with
  | zero => rfl
  | succ count ih =>
    rw [encipher, decipher, ih]
    exact network.pass_involutive count state

end FeistelNetwork

/-- Bytewise exclusive or, as long as the first operand. -/
def xorBytes (bytes mask : Bytes) : Bytes := bytes.zipWith (· ^^^ ·) mask

/-- A mask that is long enough keeps the length. -/
theorem xorBytes_length {bytes mask : Bytes} (covered : bytes.length ≤ mask.length) :
    (xorBytes bytes mask).length = bytes.length := by
  simp [xorBytes, covered]

/-- Masking twice gives the bytes back. -/
theorem xorBytes_cancel {bytes mask : Bytes} (covered : bytes.length ≤ mask.length) :
    xorBytes (xorBytes bytes mask) mask = bytes := by
  induction bytes generalizing mask with
  | nil => simp [xorBytes]
  | cons byte rest ih =>
    cases mask with
    | nil => simp at covered
    | cons head tail =>
      have inner : xorBytes (xorBytes rest tail) tail = rest := ih (by simpa using covered)
      simp only [xorBytes, List.zipWith_cons_cons] at inner ⊢
      rw [inner, UInt8.xor_assoc, UInt8.xor_self, UInt8.xor_zero]

/-- The last byte is masked on its own. -/
theorem xorBytes_concat {bytes mask : Bytes} {last : UInt8}
    (covered : bytes.length < mask.length) :
    xorBytes (bytes ++ [last]) mask =
      xorBytes bytes mask ++ [last ^^^ byteAt mask bytes.length] := by
  induction bytes generalizing mask with
  | nil =>
    cases mask with
    | nil => simp at covered
    | cons head tail => simp [xorBytes, byteAt]
  | cons byte rest ih =>
    cases mask with
    | nil => simp at covered
    | cons head tail =>
      have inner : xorBytes (rest ++ [last]) tail =
          xorBytes rest tail ++ [last ^^^ byteAt tail rest.length] := ih (by simpa using covered)
      simp only [xorBytes, List.cons_append, List.zipWith_cons_cons] at inner ⊢
      rw [inner]
      simp [byteAt]

/-- `for j in 0..count { buf[base + j] ^= mask[j] }`. -/
def xorInto (mask : Bytes) (base : Nat) : Nat → Bytes → Checked Bytes
  | 0, buf => .ok buf
  | count + 1, buf => do
    let buf ← xorInto mask base count buf
    let current ← readByte buf (base + count)
    let key ← readByte mask count
    writeByte buf (base + count) (current ^^^ key)

/-- The loop rewrites exactly the addressed range. -/
theorem xorInto_append (before middle after : Bytes) {mask : Bytes}
    (covered : middle.length ≤ mask.length) :
    xorInto mask before.length middle.length (before ++ middle ++ after) =
      .ok (before ++ xorBytes middle mask ++ after) := by
  -- The loop ends with the last byte of the range, so the range is peeled from its end.
  induction middle using List.reverseRecOn generalizing after with
  | nil => simp [xorInto, xorBytes]
  | append_singleton init last ih =>
    have shorter : init.length < mask.length := by
      simp at covered
      omega
    have step := ih (last :: after) (Nat.le_of_lt shorter)
    have middleLength : (xorBytes init mask).length = init.length :=
      xorBytes_length (Nat.le_of_lt shorter)
    rw [List.length_append, List.length_singleton, xorInto]
    have shape : before ++ (init ++ [last]) ++ after = before ++ init ++ last :: after := by simp
    rw [shape, step, Checked.ok_bind]
    have position : before.length + init.length =
        (before ++ xorBytes init mask).length := by
      simp [middleLength]
    have current : byteAt (before ++ xorBytes init mask ++ last :: after)
        (before.length + init.length) = last := by
      rw [position, byteAt_append_right (Nat.le_refl _)]
      simp [byteAt]
    have inside : before.length + init.length <
        (before ++ xorBytes init mask ++ last :: after).length := by
      simp [middleLength]
    rw [readByte_of_lt inside, Checked.ok_bind, readByte_of_lt shorter, Checked.ok_bind,
      current, writeByte_of_lt inside, xorBytes_concat shorter]
    rw [position, List.set_append_right _ _ (Nat.le_refl _)]
    simp

end Pesigitg.Base
