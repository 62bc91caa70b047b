import Introduction.Cbor.Head
import Mathlib.Tactic.Common
import Mathlib.Tactic.Ring

/-!
# Reading heads that were written

The shortest head of an argument below `2 ^ 64` is read as the head with that argument, whatever
follows it.  A number in a fixed number of octets is read back modulo the power of 256 that they
hold (`Bytes.toNat_ofNat`).
-/

namespace Introduction

/-- Octets are read on top of the number before them. -/
lemma Bytes.foldl_ofNat (acc width n : ℕ) :
    (Bytes.ofNat width n).foldl (fun n b => n * 256 + b.toNat) acc =
      acc * 256 ^ width + n % 256 ^ width := by
  induction width generalizing acc with
  | zero => simp [ofNat, Nat.mod_one]
  | succ width ih =>
    have hsplit : n % 256 ^ (width + 1) = n % 256 ^ width + 256 ^ width * (n / 256 ^ width % 256) :=
      Nat.mod_mul
    rw [ofNat, List.foldl_cons, ih, UInt8.toNat_ofNat', hsplit]
    ring

/-- A number is read back from its lowest octets. -/
theorem Bytes.toNat_ofNat (width n : ℕ) : (Bytes.ofNat width n).toNat = n % 256 ^ width := by
  have h := Bytes.foldl_ofNat 0 width n
  rw [Nat.zero_mul, Nat.zero_add] at h
  exact h

namespace Cbor.Head

/-- The initial byte of a head holds the major type and the short argument. -/
lemma initial_div_mod {major info : ℕ} (hmajor : major < 8) (hinfo : info < 32) :
    (UInt8.ofNat (major * 32 + info)).toNat / 32 = major ∧
      (UInt8.ofNat (major * 32 + info)).toNat % 32 = info := by
  rw [UInt8.toNat_ofNat']
  omega

/-- An argument that fits the octets after the initial byte is read from them. -/
lemma readArgument_following {info width n : ℕ} (offset start : ℕ) (rest : Bytes)
    (hinfo : (info, width) ∈ [(24, 1), (25, 2), (26, 4), (27, 8)]) (hn : n < 256 ^ width) :
    readArgument offset info ⟨start, Bytes.ofNat width n ++ rest⟩ =
      .ok (some n, ⟨start + width, rest⟩) := by
  have htake : Cursor.take width ⟨start, Bytes.ofNat width n ++ rest⟩ =
      .ok (Bytes.ofNat width n, ⟨start + width, rest⟩) := by
    have h := Cursor.take_append (Bytes.ofNat width n) rest start
    rwa [Bytes.length_ofNat] at h
  have hnat : (Bytes.ofNat width n).toNat = n := by
    rw [Bytes.toNat_ofNat, Nat.mod_eq_of_lt hn]
  simp only [List.mem_cons, Prod.mk.injEq, List.not_mem_nil, or_false] at hinfo
  rcases hinfo with ⟨rfl, rfl⟩ | ⟨rfl, rfl⟩ | ⟨rfl, rfl⟩ | ⟨rfl, rfl⟩ <;>
    simp only [readArgument, htake, hnat] <;> rfl

/-- A head is read from its initial byte and its argument. -/
lemma read_of_readArgument {major info offset n : ℕ} (following : Bytes) {rest : Bytes}
    {head : Head} {c : Cursor} (hmajor : major < 7) (hinfo : info < 32)
    (hargument : readArgument offset info ⟨offset + 1, following ++ rest⟩ = .ok (some n, c))
    (hhead : ofArgument? major (some n) = some head) :
    read ⟨offset, UInt8.ofNat (major * 32 + info) :: (following ++ rest)⟩ = .ok (head, c) := by
  obtain ⟨hdiv, hmod⟩ := initial_div_mod (show major < 8 by omega) hinfo
  unfold read
  simp only [hdiv, hmod, hargument, hhead]
  rw [if_neg (by omega)]

/-- The shortest head of an argument is read as the head with that argument. -/
theorem read_encode (major n : ℕ) {head : Head} (hmajor : major < 7) (hn : n < 2 ^ 64)
    (hhead : ofArgument? major (some n) = some head) (offset : ℕ) (rest : Bytes) :
    read ⟨offset, encode major n ++ rest⟩ = .ok (head, ⟨offset + size n, rest⟩) := by
  unfold encode size
  split_ifs with h₁ h₂ h₃ h₄
  · refine read_of_readArgument [] hmajor (by omega) ?_ hhead
    simp [readArgument, h₁]
  · refine read_of_readArgument _ hmajor (by omega) ?_ hhead
    exact readArgument_following _ _ rest (by simp) (by omega)
  · refine read_of_readArgument _ hmajor (by omega) ?_ hhead
    exact readArgument_following _ _ rest (by simp) (by omega)
  · refine read_of_readArgument _ hmajor (by omega) ?_ hhead
    exact readArgument_following _ _ rest (by simp) (by omega)
  · refine read_of_readArgument _ hmajor (by omega) ?_ hhead
    exact readArgument_following _ _ rest (by simp) (by omega)

end Cbor.Head

end Introduction
