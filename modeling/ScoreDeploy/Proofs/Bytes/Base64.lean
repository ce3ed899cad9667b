import ScoreDeploy.Bytes.Base64
import Mathlib.Data.Option.Basic

/-!
# Base 64 read back

A digit has the value that it was written for and is not the filling, so that each group of a text
gives back the bytes it was made of.
-/

namespace ScoreDeploy.Base64

variable {n : Nat} {p q r s : Char} {rest : List Char}

theorem value?_digit (h : n < 64) : value? (digit n) = some n := by
  have hall : ∀ n : Fin 64, value? (digit n) = some n.val := by decide +kernel
  exact hall ⟨n, h⟩

theorem digit_ne_filling (h : n < 64) : digit n ≠ '=' := by
  have hall : ∀ n : Fin 64, digit n ≠ '=' := by decide +kernel
  exact hall ⟨n, h⟩

/-! ### Groups -/

theorem decodeChars?_full (hs : s ≠ '=') :
    decodeChars? (p :: q :: r :: s :: rest) = do
      let n := (← value? p) * 262144 + (← value? q) * 4096 + (← value? r) * 64 + (← value? s)
      return UInt8.ofNat (n / 65536) :: UInt8.ofNat (n / 256) :: UInt8.ofNat n ::
        (← decodeChars? rest) := by
  rw [decodeChars?]
  · rintro rfl rfl -
    exact hs rfl
  · rintro rfl -
    exact hs rfl

theorem decodeChars?_two (hr : r ≠ '=') :
    decodeChars? [p, q, r, '='] = do
      let n := (← value? p) * 4096 + (← value? q) * 64 + (← value? r)
      guard (n % 4 = 0)
      return [UInt8.ofNat (n / 1024), UInt8.ofNat (n / 4)] := by
  rw [decodeChars?]
  exact hr

theorem ofNat_eq {a : UInt8} (h : n % 256 = a.toNat) : UInt8.ofNat n = a :=
  UInt8.toNat_inj.mp (UInt8.toNat_ofNat'.trans h)

theorem decodeChars?_encodeChars (bs : Bytes) : decodeChars? (encodeChars bs) = some bs := by
  fun_induction encodeChars bs with
  | case1 a b c rest n ih =>
    have ha := a.toNat_lt
    have hb := b.toNat_lt
    have hc := c.toNat_lt
    have hn : n = a.toNat * 65536 + b.toNat * 256 + c.toNat := rfl
    clear_value n
    have hjoin : n / 262144 * 262144 + n / 4096 % 64 * 4096 + n / 64 % 64 * 64 + n % 64 = n := by
      omega
    rw [decodeChars?_full (digit_ne_filling (Nat.mod_lt n (by decide))), value?_digit (by omega),
      value?_digit (Nat.mod_lt _ (by decide)), value?_digit (Nat.mod_lt _ (by decide)),
      value?_digit (Nat.mod_lt _ (by decide)), ih]
    simp only [Option.bind_eq_bind, Option.bind_some, hjoin]
    have hfirst : UInt8.ofNat (n / 65536) = a := ofNat_eq (by omega)
    have hsecond : UInt8.ofNat (n / 256) = b := ofNat_eq (by omega)
    have hthird : UInt8.ofNat n = c := ofNat_eq (by omega)
    rw [hfirst, hsecond, hthird]
    rfl
  | case2 a b n =>
    have ha := a.toNat_lt
    have hb := b.toNat_lt
    have hn : n = a.toNat * 1024 + b.toNat * 4 := rfl
    clear_value n
    have hjoin : n / 4096 * 4096 + n / 64 % 64 * 64 + n % 64 = n := by omega
    rw [decodeChars?_two (digit_ne_filling (Nat.mod_lt n (by decide))), value?_digit (by omega),
      value?_digit (Nat.mod_lt _ (by decide)), value?_digit (Nat.mod_lt _ (by decide))]
    simp only [Option.bind_eq_bind, Option.bind_some, hjoin]
    have hfirst : UInt8.ofNat (n / 1024) = a := ofNat_eq (by omega)
    have hsecond : UInt8.ofNat (n / 4) = b := ofNat_eq (by omega)
    have hzero : n % 4 = 0 := by omega
    rw [hfirst, hsecond, hzero]
    rfl
  | case3 a n =>
    have ha := a.toNat_lt
    have hn : n = a.toNat * 16 := rfl
    clear_value n
    have hjoin : n / 64 * 64 + n % 64 = n := by omega
    rw [decodeChars?, value?_digit (by omega), value?_digit (Nat.mod_lt _ (by decide))]
    simp only [Option.bind_eq_bind, Option.bind_some, hjoin]
    have hfirst : UInt8.ofNat (n / 16) = a := ofNat_eq (by omega)
    have hzero : n % 16 = 0 := by omega
    rw [hfirst, hzero]
    rfl
  | case4 => rfl

/-- What is written in base 64 is read back. -/
theorem decode?_encode (bs : Bytes) : decode? (encode bs) = some bs := by
  rw [decode?, encode, String.toList_ofList]
  exact decodeChars?_encodeChars bs

end ScoreDeploy.Base64
