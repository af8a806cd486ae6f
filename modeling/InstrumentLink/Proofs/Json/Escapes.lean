import InstrumentLink.Proofs.Json.Layout

namespace InstrumentLink.Json

namespace Contents

/-- The contents with one more piece. -/
def add (contents : Contents) : Piece → Contents
  | .plain c _ | .escape _ c _ => contents.push c
  | .code _ n _ _ => contents.pushCode n

def ofPieces (pieces : List Piece) : Contents := pieces.foldl add {}

theorem ofPieces_append (pieces : List Piece) (piece : Piece) :
    ofPieces (pieces ++ [piece]) = (ofPieces pieces).add piece := by
  rw [ofPieces, List.foldl_append]
  rfl

private theorem add_broken {contents : Contents} (broken : contents.broken = true) (piece : Piece) :
    (contents.add piece).broken = true := by
  cases piece with
  | plain c ordinary => simp [add, push, broken]
  | escape letter c means => simp [add, push, broken]
  | code digits n four writes =>
    unfold add pushCode
    dsimp only
    repeat' split
    all_goals simp [push, broken]

private theorem text_of_broken {contents : Contents} (broken : contents.broken = true)
    (pieces : List Piece) : (pieces.foldl add contents).text = none := by
  induction pieces generalizing contents with
  | nil => simp [text, broken]
  | cons piece rest ih => exact ih (add_broken broken piece)

private theorem map_cons_text (chars : List Char) (c : Char) (read : Option (List Char)) :
    read.map (fun cs => String.ofList ((c :: chars).reverse ++ cs)) =
      (read.map (c :: ·)).map fun cs => String.ofList (chars.reverse ++ cs) := by
  cases read with
  | none => rfl
  | some cs => simp

private theorem add_high (chars : List Char) (digits : List Char) {n : Nat}
    (four : digits.length = 4) (writes : hexNumber? digits = some n) (high : isHigh n = true) :
    add { chars } (.code digits n four writes) = { chars, high := some n } := by
  simp [add, pushCode, high]

private theorem text_foldl_add (chars : List Char) (pieces : List Piece) :
    (pieces.foldl add { chars }).text =
      (unescape pieces).map fun cs => String.ofList (chars.reverse ++ cs) := by
  fun_induction unescape pieces generalizing chars with
  | case1 => simp [text]
  | case2 c ordinary rest ih => exact (ih (c :: chars)).trans (map_cons_text chars c _)
  | case3 letter c means rest ih => exact (ih (c :: chars)).trans (map_cons_text chars c _)
  | case4 digits n four writes high digits' low four' writes' rest is_low ih =>
    have paired : (add { chars, high := some n } (.code digits' low four' writes')) =
        { chars := pair n low :: chars } := by
      simp [add, pushCode, is_low]
    rw [List.foldl_cons, add_high chars digits four writes high, List.foldl_cons, paired, ih,
      map_cons_text]
  | case5 digits n four writes high digits' low four' writes' rest not_low =>
    rw [List.foldl_cons, add_high chars digits four writes high, List.foldl_cons, text_of_broken]
    · rfl
    · simp [add, pushCode, not_low]
  | case6 digits n four writes rest high alone =>
    rw [List.foldl_cons, add_high chars digits four writes high]
    cases rest with
    | nil => rfl
    | cons piece rest =>
      rw [List.foldl_cons, text_of_broken]
      · rfl
      · cases piece with
        | plain | escape => rfl
        | code digits' low four' writes' => exact absurd rfl (alone digits' low four' writes' rest)
  | case7 digits n four writes rest not_high low =>
    rw [List.foldl_cons, text_of_broken]
    · rfl
    · simp [add, pushCode, not_high, low]
  | case8 digits n four writes rest not_high not_low ih =>
    have pushed : (add { chars } (.code digits n four writes)) =
        { chars := Char.ofNat n :: chars } := by
      simp [add, pushCode, push, not_high, not_low]
    rw [List.foldl_cons, pushed, ih, map_cons_text]

theorem text_ofPieces (pieces : List Piece) :
    (ofPieces pieces).text = (unescape pieces).map String.ofList :=
  text_foldl_add [] pieces

end Contents

end InstrumentLink.Json
