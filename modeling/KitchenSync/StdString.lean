import Mathlib.Data.String.Basic
import Mathlib.Data.List.Basic

/-!
# The `std::string` operations the PostgreSQL adapter uses

Positions and lengths are `size_t`: `std::string::npos` is the largest value, and a
subtraction below zero wraps around. A character of a `String` stands for one byte
of the C++ string, so lengths and positions count characters.
-/

namespace KitchenSync

/-- `std::string::npos`. -/
def npos : ℕ := 2 ^ 64 - 1

/-- `a - b` on `size_t`: below zero the difference wraps around to `2 ^ 64 - (b - a)`. -/
def sizeSub (a b : ℕ) : ℕ := if b ≤ a then a - b else 2 ^ 64 - (b - a)

/-- `s.substr(pos, count)`: at most `count` characters from position `pos`. The library
throws `out_of_range` for a `pos` past the end; the lister's calls never pass one, and
the spatial escaping checks for it itself. -/
def substr (s : String) (pos count : ℕ) : String := ⟨(s.data.drop pos).take count⟩

/-- `s[n]`; at `n = s.length()` the library returns the terminating `'\0'`. -/
def charAt (s : String) (n : ℕ) : Char := s.data.getD n '\x00'

/-- `s.find(c)`: the first position of `c`, or `npos`. -/
def find (s : String) (c : Char) : ℕ := (s.data.findIdx? (· == c)).getD npos

/-- `s.rfind(c)`: the last position of `c`, or `npos`. -/
def rfind (s : String) (c : Char) : ℕ :=
  match s.data.reverse.findIdx? (· == c) with
  | some i => s.length - 1 - i
  | none => npos

/-- `s.find_first_not_of(chars)`: the first position of a character outside `chars`,
or `npos`. -/
def findFirstNotOf (s chars : String) : ℕ :=
  (s.data.findIdx? fun c => !chars.data.contains c).getD npos

/-- `transform(..., tolower)` in the "C" locale: upper-case ASCII letters to lower case. -/
def toLower (s : String) : String := ⟨s.data.map Char.toLower⟩

/-- A substring's characters are those after `pos`, at most `count` of them. -/
@[simp] theorem substr_data (s : String) (pos count : ℕ) :
    (substr s pos count).data = (s.data.drop pos).take count := rfl

/-- A substring has at most the characters it asks for. -/
theorem substr_length_le (s : String) (pos count : ℕ) : (substr s pos count).length ≤ count := by
  show ((s.data.drop pos).take count).length ≤ count
  simp only [List.length_take]
  omega

/-- A prefix as long as the whole string is the string. -/
theorem substr_zero_of_length_le {s : String} {count : ℕ} (h : s.length ≤ count) :
    substr s 0 count = s := by
  show (⟨(s.data.drop 0).take count⟩ : String) = s
  rw [List.drop_zero, List.take_of_length_le h]

/-- At and past the end, `charAt` is the terminating `'\0'`. -/
theorem charAt_of_length_le {s : String} {n : ℕ} (h : s.length ≤ n) : charAt s n = '\x00' := by
  rw [charAt, List.getD_eq_getElem?_getD, List.getElem?_eq_none (String.length_data s ▸ h)]
  rfl

/-- Without wrap-around, `size_t` subtraction is subtraction. -/
@[simp] theorem sizeSub_of_le {a b : ℕ} (h : b ≤ a) : sizeSub a b = a - b := if_pos h

/-- `find` of a missing character is `npos`. -/
theorem find_of_not_mem {s : String} {c : Char} (h : c ∉ s.data) : find s c = npos := by
  have hnone : s.data.findIdx? (· == c) = none :=
    List.findIdx?_eq_none_iff.mpr fun x hx => by simpa using fun hEq : x = c => h (hEq ▸ hx)
  simp [find, hnone]

/-- `find` stops at the first occurrence. -/
theorem find_of_not_mem_before {before after : List Char} {c : Char} (h : c ∉ before) :
    find ⟨before ++ c :: after⟩ c = before.length := by
  have hnone : before.findIdx? (· == c) = none :=
    List.findIdx?_eq_none_iff.mpr fun x hx => by simpa using fun hEq : x = c => h (hEq ▸ hx)
  simp [find, List.findIdx?_append, hnone, List.findIdx?_cons]

/-- `find_first_not_of` finds nothing in a string made of the given characters. -/
theorem findFirstNotOf_of_forall_mem {s chars : String} (h : ∀ c ∈ s.data, c ∈ chars.data) :
    findFirstNotOf s chars = npos := by
  have hnone : s.data.findIdx? (fun c => !chars.data.contains c) = none :=
    List.findIdx?_eq_none_iff.mpr fun c hc => by simpa using h c hc
  rw [findFirstNotOf, hnone]
  rfl

/-- Lower-casing a character twice changes nothing more. -/
@[simp] theorem char_toLower_toLower (c : Char) : c.toLower.toLower = c.toLower := by
  by_cases h : c.toNat ≥ 65 ∧ c.toNat ≤ 90
  · have hv : (Char.ofNat (c.toNat + 32)).toNat = c.toNat + 32 := by
      rw [Char.ofNat, dif_pos (Or.inl (by omega))]
      rfl
    simp only [Char.toLower, if_pos h, hv]
    rw [if_neg (by omega)]
  · simp only [Char.toLower, if_neg h]

/-- Lowering a lowered text changes nothing. -/
@[simp] theorem toLower_toLower (s : String) : toLower (toLower s) = toLower s := by
  simp [toLower, Function.comp_def]

/-- Lowering goes character by character. -/
@[simp] theorem toLower_append (s t : String) : toLower (s ++ t) = toLower s ++ toLower t := by
  simp [toLower, String.ext_iff]

/-- A piece of a lower-case string is lower-case. -/
theorem toLower_substr {s : String} (h : toLower s = s) (pos count : ℕ) :
    toLower (substr s pos count) = substr s pos count := by
  have hdata : s.data.map Char.toLower = s.data := congrArg String.data h
  rw [String.ext_iff]
  simp only [toLower, substr_data]
  rw [List.map_take, List.map_drop, hdata]

end KitchenSync
