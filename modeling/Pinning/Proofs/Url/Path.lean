import Pinning.Proofs.Url.Percent
import Pinning.Url.Reader
/-!
What a path stands for. Walking along the pieces of a reference adds no more bytes to a path than
the pieces have, and fewer for each dot segment and each escape among them.
-/

set_option autoImplicit false
set_option relaxedAutoImplicit false

namespace Pinning.Url

open Reader (pieces walk leave stored dot? isSingleDot isDoubleDot isSlash isDrive)

/-- The bytes that the segments of a path stand for, each behind a slash. -/
def pathBytes (names : List String) : List UInt8 :=
  names.flatMap fun name => String.utf8EncodeChar '/' ++ decodedBytes name.toList

@[simp] theorem pathBytes_append (names more : List String) :
    pathBytes (names ++ more) = pathBytes names ++ pathBytes more := List.flatMap_append

theorem decodedBytes_append_segments (cs : List Char) (names : List String) :
    decodedBytes (cs ++ names.flatMap fun name => '/' :: name.toList)
      = decodedBytes cs ++ pathBytes names := by
  have hslash : Text.hexValue? '/' = none := by decide
  induction names generalizing cs with
  | nil => simp [pathBytes]
  | cons name rest ih =>
    rw [List.flatMap_cons, List.cons_append, decodedBytes_append hslash (by decide), ih]
    simp [pathBytes]

theorem decodedBytes_render (names : List String) :
    decodedBytes (Path.segments names).render.toList = pathBytes names := by
  have hrender : (Path.segments names).render.toList
      = names.flatMap fun name => '/' :: name.toList := by
    simp [Path.render, String.toList_join, List.flatMap_map]
  rw [hrender]
  exact decodedBytes_append_segments [] names

section Pieces

def pieceBytes (ps : List (List Char)) : List UInt8 :=
  ps.flatMap fun piece => String.utf8EncodeChar '/' ++ Text.utf8Bytes piece

theorem pieces_ne_nil (special : Bool) (cs : List Char) : pieces special cs ≠ [] := by
  cases cs with
  | nil => simp [pieces]
  | cons c rest =>
    rw [pieces]
    split
    · simp
    · split <;> simp

theorem head?_pieces (special : Bool) (cs : List Char) :
    (pieces special cs).head? = some (cs.takeWhile fun c => !isSlash special c) := by
  induction cs with
  | nil => rfl
  | cons c rest ih =>
    rw [pieces]
    split
    · next hc => simp [hc]
    · next hc =>
      cases hpieces : pieces special rest with
      | nil => exact absurd hpieces (pieces_ne_nil special rest)
      | cons first more =>
        obtain rfl : first = rest.takeWhile fun c => !isSlash special c := by
          simpa [hpieces] using ih
        simp [hc]

theorem pieceBytes_pieces (special : Bool) (cs : List Char) :
    pieceBytes (pieces special cs)
      = String.utf8EncodeChar '/'
        ++ Text.utf8Bytes (cs.map fun c => if isSlash special c then '/' else c) := by
  induction cs with
  | nil => simp [pieces, pieceBytes]
  | cons c rest ih =>
    rw [pieces, List.map_cons]
    split
    · simp only [pieceBytes] at ih
      simp [pieceBytes, ih]
    · cases hpieces : pieces special rest with
      | nil => exact absurd hpieces (pieces_ne_nil special rest)
      | cons first more =>
        simp only [hpieces, pieceBytes, List.flatMap_cons, List.append_assoc,
          List.append_cancel_left_eq] at ih
        simp [pieceBytes, ih]

theorem pieces_eq_fields {special : Bool} {cs : List Char}
    (h : ∀ c ∈ cs, isSlash special c = true → c = '/') :
    pieces special cs = Text.fields '/' cs := by
  induction cs with
  | nil => rfl
  | cons c rest ih =>
    have hc : isSlash special c = true ↔ c = '/' :=
      ⟨h c List.mem_cons_self, fun heq => by simp [isSlash, heq]⟩
    have hrest := ih fun d hd => h d (List.mem_cons_of_mem c hd)
    cases hfields : Text.fields '/' rest with
    | nil => simp [pieces, Text.fields, hc, hrest, hfields]
    | cons first more => simp [pieces, Text.fields, hc, hrest, hfields]

theorem pieceBytes_fields (cs : List Char) :
    pieceBytes (Text.fields '/' cs) = String.utf8EncodeChar '/' ++ Text.utf8Bytes cs := by
  have hslash : ∀ c, isSlash false c = true ↔ c = '/' := fun c => by simp [isSlash]
  have hsame : (cs.map fun c => if isSlash false c then '/' else c) = cs := by
    refine List.map_id'' (fun c => ?_) cs
    split
    · next hc => exact ((hslash c).1 hc).symm
    · rfl
  have hpieces : pieces false cs = Text.fields '/' cs :=
    pieces_eq_fields fun c _ hc => (hslash c).1 hc
  rw [← hpieces, pieceBytes_pieces, hsame]

end Pieces

section Walk

/-- The piece does not become a segment that stands for the piece itself. -/
def isAltered (piece : List Char) : Bool :=
  isSingleDot piece || isDoubleDot piece || hasEscape piece

private theorem stored_eq {isFile : Bool} {piece : List Char}
    (h : isFile = true → isDrive piece = false) (done : List String) :
    stored isFile done piece = String.ofList (encode pathSet piece) := by
  unfold stored
  split
  · cases isFile with
    | false => simp
    | true => simp [h rfl]
  · rfl

private theorem leave_eq (done : List String) : leave false done = done.dropLast := by
  rw [leave]
  split
  · simp
  · next hnone =>
    rw [List.getLast?_eq_none_iff.1 hnone]
    rfl

private theorem length_pathBytes_leave (done : List String) :
    (pathBytes (leave false done)).length ≤ (pathBytes done).length := by
  rw [leave_eq]
  rcases List.eq_nil_or_concat done with rfl | ⟨init, last, rfl⟩
  · exact Nat.le_refl _
  · simp

private theorem length_pathBytes_stored (done : List String) (piece : List Char) :
    (pathBytes [stored false done piece]).length + (if hasEscape piece then 1 else 0)
      ≤ 1 + (Text.utf8Bytes piece).length := by
  have hslash : (String.utf8EncodeChar '/').length = 1 := by decide
  have hle := length_decodedBytes_le piece
  rw [stored_eq (by simp)]
  simp only [pathBytes, List.flatMap_singleton, String.toList_ofList, List.length_append, hslash,
    decodedBytes_encode keepsEscapes_pathSet]
  omega

theorem dot?_cons_eq_none {c : Char} (hdot : c ≠ '.') (hpercent : c ≠ '%') (rest : List Char) :
    dot? (c :: rest) = none := by
  unfold dot?
  split
  · next heq => exact absurd (List.cons.inj heq).1 hdot
  · next heq => exact absurd (List.cons.inj heq).1 hpercent
  · next heq => exact absurd (List.cons.inj heq).1 hpercent
  · rfl

private theorem length_pos_of_dot {piece : List Char} (h : (dot? piece).isSome = true) :
    1 ≤ (Text.utf8Bytes piece).length := by
  cases piece with
  | nil => simp [dot?] at h
  | cons c rest =>
    have hpos := Text.length_utf8EncodeChar_pos c
    rw [Text.utf8Bytes_cons, List.length_append]
    omega

private theorem length_pos_of_singleDot {piece : List Char} (h : isSingleDot piece = true) :
    1 ≤ (Text.utf8Bytes piece).length :=
  length_pos_of_dot (by simp [beq_iff_eq.1 h])

private theorem length_pos_of_doubleDot {piece : List Char} (h : isDoubleDot piece = true) :
    1 ≤ (Text.utf8Bytes piece).length := by
  obtain ⟨rest, hrest, -⟩ := Option.bind_eq_some_iff.1 (beq_iff_eq.1 h)
  exact length_pos_of_dot (by simp [hrest])

theorem length_pathBytes_walk (done : List String) (ps : List (List Char)) :
    (pathBytes (walk false done ps)).length + ps.countP isAltered
      ≤ (pathBytes done).length + (pieceBytes ps).length := by
  have hempty : (pathBytes [""]).length = 1 := by decide
  have hpieces : ∀ piece rest, (pieceBytes (piece :: rest)).length
      = 1 + (Text.utf8Bytes piece).length + (pieceBytes rest).length := by
    intro piece rest
    have hslash : (String.utf8EncodeChar '/').length = 1 := by decide
    simp [pieceBytes, hslash]
    omega
  have hone : ∀ piece, (if isAltered piece = true then 1 else 0) ≤ 1 := by
    intro piece
    split <;> omega
  have hkept : ∀ piece, ¬isDoubleDot piece = true → ¬isSingleDot piece = true →
      isAltered piece = hasEscape piece := by
    intro piece hdouble hsingle
    simp [isAltered, hdouble, hsingle]
  -- A dot segment has a byte of its own, which pays for the one that an altered piece has to save.
  fun_induction walk false done ps with
  | case1 done => simp [pieceBytes]
  | case2 done last hdouble =>
    have hleave := length_pathBytes_leave done
    have hpos := length_pos_of_doubleDot hdouble
    have hlast := hone last
    simp only [pathBytes_append, List.length_append, hempty, hpieces, List.countP_cons,
      List.countP_nil]
    omega
  | case3 done last _ hsingle =>
    have hpos := length_pos_of_singleDot hsingle
    have hlast := hone last
    simp only [pathBytes_append, List.length_append, hempty, hpieces, List.countP_cons,
      List.countP_nil]
    omega
  | case4 done last hdouble hsingle =>
    have hstored := length_pathBytes_stored done last
    simp only [pathBytes_append, List.length_append, hpieces, List.countP_cons, List.countP_nil,
      hkept last hdouble hsingle]
    omega
  | case5 done piece rest _ hdouble ih =>
    have hleave := length_pathBytes_leave done
    have hpos := length_pos_of_doubleDot hdouble
    have hpiece := hone piece
    simp only [hpieces, List.countP_cons]
    omega
  | case6 done piece rest _ _ hsingle ih =>
    have hpos := length_pos_of_singleDot hsingle
    have hpiece := hone piece
    simp only [hpieces, List.countP_cons]
    omega
  | case7 done piece rest _ hdouble hsingle ih =>
    have hstored := length_pathBytes_stored done piece
    simp only [pathBytes_append, List.length_append] at ih
    simp only [hpieces, List.countP_cons, hkept piece hdouble hsingle]
    omega

theorem walk_eq_append {isFile : Bool} {done : List String} {ps : List (List Char)}
    (h : ∀ piece ∈ ps, isSingleDot piece = false ∧ isDoubleDot piece = false)
    (hdrive : isFile = true → ∀ piece ∈ ps, isDrive piece = false) :
    walk isFile done ps = done ++ ps.map fun piece => String.ofList (encode pathSet piece) := by
  fun_induction walk isFile done ps with
  | case1 done => simp
  | case2 done last hdouble => simp [hdouble] at h
  | case3 done last _ hsingle => simp [hsingle] at h
  | case4 done last _ _ =>
    rw [stored_eq fun hfile => hdrive hfile last List.mem_cons_self, List.map_singleton]
  | case5 done piece rest _ hdouble _ => simp [hdouble] at h
  | case6 done piece rest _ _ hsingle _ => simp [hsingle] at h
  | case7 done piece rest _ _ _ ih =>
    rw [ih (fun other hother => h other (List.mem_cons_of_mem _ hother))
      fun hfile other hother => hdrive hfile other (List.mem_cons_of_mem _ hother),
      stored_eq fun hfile => hdrive hfile piece List.mem_cons_self]
    simp

theorem pathBytes_map_encode {ps : List (List Char)} (h : ∀ piece ∈ ps, hasEscape piece = false) :
    pathBytes (ps.map fun piece => String.ofList (encode pathSet piece)) = pieceBytes ps := by
  induction ps with
  | nil => rfl
  | cons piece rest ih =>
    have hpiece := decodedBytes_eq_utf8Bytes_iff.2 (h piece List.mem_cons_self)
    have hrest := ih fun other hother => h other (List.mem_cons_of_mem _ hother)
    simp only [pathBytes, pieceBytes] at hrest
    simp only [pathBytes, pieceBytes, List.map_cons, List.flatMap_cons, String.toList_ofList,
      decodedBytes_encode keepsEscapes_pathSet, hpiece, hrest]

end Walk

end Pinning.Url
