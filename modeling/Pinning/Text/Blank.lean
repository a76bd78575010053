/-!
Blank characters and trimming. `isBlank` is the `White_Space` property of Unicode; `trim` removes
the longest blank runs at both ends of a text and nothing else.
-/

set_option autoImplicit false
set_option relaxedAutoImplicit false

namespace Pinning.Text

def isBlank (c : Char) : Bool :=
  let n := c.toNat
  (9 ≤ n && n ≤ 13) || n == 0x20 || n == 0x85 || n == 0xA0 || n == 0x1680
    || (0x2000 ≤ n && n ≤ 0x200A) || n == 0x2028 || n == 0x2029 || n == 0x202F
    || n == 0x205F || n == 0x3000

def trimStart : List Char → List Char
  | [] => []
  | c :: rest => if isBlank c then trimStart rest else c :: rest

def trimEnd : List Char → List Char
  | [] => []
  | c :: rest =>
    match trimEnd rest with
    | [] => if isBlank c then [] else [c]
    | d :: more => c :: d :: more

def trim (cs : List Char) : List Char := trimEnd (trimStart cs)

theorem trimStart_blank_append (ws rest : List Char) (h : ∀ c ∈ ws, isBlank c = true) :
    trimStart (ws ++ rest) = trimStart rest := by
  induction ws with
  | nil => rfl
  | cons c ws ih =>
    have hc : isBlank c = true := h c (by simp)
    simp only [List.cons_append, trimStart, hc, if_true]
    exact ih fun d hd => h d (by simp [hd])

end Pinning.Text
