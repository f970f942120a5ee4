import Mathlib.Data.List.Forall2
import Rulebound.Text.Encoding
import Rulebound.Text.Search

/-!
# Files of lines

Characters below 128 are their own bytes, and a text of ended lines is cut into these lines again.
-/

namespace Rulebound.Text

/-! ## Bytes -/

theorem utf8EncodeChar_ascii {c : Char} (h : c.toNat < 0x80) :
    String.utf8EncodeChar c = [UInt8.ofNat c.toNat] := by
  have hle : c.val.toNat ≤ 0x7F := Nat.lt_succ_iff.1 h
  unfold String.utf8EncodeChar
  dsimp only
  rw [if_pos hle]
  rfl

theorem startByte_ascii {c : Char} (h : c.toNat < 0x80) :
    startByte (UInt8.ofNat c.toNat).toNat = some (.between, some c) := by
  have hbyte : (UInt8.ofNat c.toNat).toNat = c.toNat := by
    rw [UInt8.toNat_ofNat']
    omega
  unfold startByte lead?
  rw [hbyte, if_pos h, Option.map_some]
  dsimp only
  rw [if_pos rfl, Char.ofNat_toNat]

theorem decode?_encode {text : List Char} (h : ∀ c ∈ text, c.toNat < 0x80) :
    decode? (encode text) = some text := by
  unfold decode?
  induction text with
  | nil => rfl
  | cons c text ih =>
      have hascii : c.toNat < 0x80 := h c List.mem_cons_self
      have hrest := ih fun d hd => h d (List.mem_cons_of_mem _ hd)
      unfold encode at hrest ⊢
      rw [List.flatMap_cons, utf8EncodeChar_ascii hascii, List.singleton_append, decodeAux]
      rw [startByte_ascii hascii]
      dsimp only
      rw [hrest]
      rfl

theorem encode_append (first last : List Char) :
    encode (first ++ last) = encode first ++ encode last :=
  List.flatMap_append

def IsRow (row : List Char) : Prop :=
  ∀ c ∈ row, c ≠ '\n' ∧ c ≠ '\r'

theorem normalizeEnds_append {row : List Char} (h : ∀ c ∈ row, c ≠ '\r') (rest : List Char) :
    normalizeEnds (row ++ rest) = row ++ normalizeEnds rest := by
  induction row with
  | nil => rfl
  | cons c row ih =>
      have hc : c ≠ '\r' := h c List.mem_cons_self
      have hrest := ih fun d hd => h d (List.mem_cons_of_mem _ hd)
      rw [List.cons_append, normalizeEnds, hrest, List.cons_append]
      · rintro more rfl -
        exact hc rfl
      · exact hc

theorem linesAux_row {row : List Char} (h : ∀ c ∈ row, c ≠ '\n') (line rest : List Char) :
    linesAux line (row ++ '\n' :: rest) = (line.reverse ++ row ++ ['\n']) :: linesAux [] rest := by
  induction row generalizing line with
  | nil => simp [linesAux]
  | cons c row ih =>
      have hc : c ≠ '\n' := h c List.mem_cons_self
      rw [List.cons_append, linesAux, if_neg hc, ih fun d hd => h d (List.mem_cons_of_mem _ hd)]
      simp

theorem lines_cons {row : List Char} (h : IsRow row) (rest : List Char) :
    lines (row ++ '\n' :: rest) = (row ++ ['\n']) :: lines rest := by
  have hfeed : normalizeEnds ('\n' :: rest) = '\n' :: normalizeEnds rest := rfl
  unfold lines
  rw [normalizeEnds_append fun c hc => (h c hc).2, hfeed, linesAux_row fun c hc => (h c hc).1]
  rfl

theorem lines_rows {rows : List (List Char)} (h : ∀ row ∈ rows, IsRow row) :
    lines (rows.flatMap (· ++ ['\n'])) = rows.map (· ++ ['\n']) := by
  induction rows with
  | nil => rfl
  | cons row rows ih =>
      rw [List.flatMap_cons, List.append_assoc, List.singleton_append,
        lines_cons (h row List.mem_cons_self),
        ih fun other hother => h other (List.mem_cons_of_mem _ hother), List.map_cons]

theorem linesAux_open {row line : List Char} (h : ∀ c ∈ row, c ≠ '\n')
    (hne : line.reverse ++ row ≠ []) : linesAux line row = [line.reverse ++ row] := by
  induction row generalizing line with
  | nil =>
      cases line with
      | nil => exact absurd rfl hne
      | cons c line => simp [linesAux]
  | cons c row ih =>
      have hc : c ≠ '\n' := h c List.mem_cons_self
      have hrest : linesAux (c :: line) row = [(c :: line).reverse ++ row] :=
        ih (fun d hd => h d (List.mem_cons_of_mem _ hd)) (by simp)
      rw [linesAux, if_neg hc, hrest, List.reverse_cons, List.append_assoc, List.singleton_append]

theorem lines_open {row : List Char} (h : IsRow row) (hne : row ≠ []) : lines row = [row] := by
  have hends := normalizeEnds_append (fun c hc => (h c hc).2) []
  rw [List.append_nil] at hends
  unfold lines
  rw [hends, normalizeEnds, List.append_nil]
  exact linesAux_open (fun c hc => (h c hc).1) hne

/-! ## Some lines of a text -/

/-- The lines of some text: rows with their ends, of which the last may lack its end. -/
inductive AreLines : List (List Char) → Prop
  | nil : AreLines []
  | last {row : List Char} (isRow : IsRow row) (ne_nil : row ≠ []) : AreLines [row]
  | ended {row : List Char} {rest : List (List Char)} (isRow : IsRow row) (later : AreLines rest) :
      AreLines ((row ++ ['\n']) :: rest)

theorem AreLines.lines_flatten {rows : List (List Char)} (h : AreLines rows) :
    lines rows.flatten = rows := by
  induction h with
  | nil => rfl
  | @last row hrow hne =>
      rw [List.flatten_singleton]
      exact lines_open hrow hne
  | @ended row rest hrow _ ih =>
      rw [List.flatten_cons, List.append_assoc, List.singleton_append, lines_cons hrow, ih]

/-- Some of the lines of a text are the lines of a text of their own. -/
theorem AreLines.filter {rows : List (List Char)} (h : AreLines rows) (keep : List Char → Bool) :
    AreLines (rows.filter keep) := by
  induction h with
  | nil => exact .nil
  | @last row hrow hne =>
      rw [List.filter_cons]
      split
      · exact .last hrow hne
      · exact .nil
  | @ended row rest hrow _ ih =>
      rw [List.filter_cons]
      split
      · exact .ended hrow ih
      · exact ih

theorem return_not_mem_normalizeEnds (text : List Char) : '\r' ∉ normalizeEnds text := by
  fun_induction normalizeEnds text with
  | case1 => exact List.not_mem_nil
  | case2 rest ih => simpa using ih
  | case3 rest hfeed ih => simpa using ih
  | case4 c rest hpair hreturn ih =>
      rw [List.mem_cons, not_or]
      exact ⟨fun heq => hreturn heq.symm, ih⟩

theorem areLines_linesAux {line text : List Char} (hline : IsRow line) (h : ∀ c ∈ text, c ≠ '\r') :
    AreLines (linesAux line text) := by
  have hrow : ∀ {line : List Char}, IsRow line → IsRow line.reverse := fun hline c hc =>
    hline c (List.mem_reverse.1 hc)
  induction text generalizing line with
  | nil =>
      cases line with
      | nil => exact .nil
      | cons c line => exact .last (hrow hline) (by simp)
  | cons c text ih =>
      obtain ⟨hc, htext⟩ := List.forall_mem_cons.1 h
      rw [linesAux]
      by_cases hfeed : c = '\n'
      · rw [if_pos hfeed, List.reverse_cons]
        exact .ended (hrow hline) (ih nofun htext)
      · rw [if_neg hfeed]
        exact ih (List.forall_mem_cons.2 ⟨⟨hfeed, hc⟩, hline⟩) htext

theorem areLines_lines (text : List Char) : AreLines (lines text) :=
  areLines_linesAux nofun fun _ hc heq => return_not_mem_normalizeEnds text (heq ▸ hc)

/-! ## Lines that are read one by one -/

/-- A text that can be read as a line: at most its last character ends it. -/
structure IsPiece (piece : List Char) : Prop where
  nonempty : piece ≠ []
  open_inside : '\n' ∉ piece.dropLast

/-- The first line of a text is a part of it, and there is one unless nothing is there. -/
theorem firstLine_split {text : List Char} (h : ∀ c ∈ text, c ≠ '\r') :
    text = (firstLine text).1 ++ (firstLine text).2 ∧
      '\n' ∉ (firstLine text).1.dropLast ∧ ((firstLine text).1 = [] → text = []) := by
  fun_induction firstLine text with
  | case1 => exact ⟨rfl, nofun, fun _ => rfl⟩
  | case2 rest => exact ⟨rfl, nofun, nofun⟩
  | case3 rest => exact absurd rfl (h '\r' List.mem_cons_self)
  | case4 rest => exact absurd rfl (h '\r' List.mem_cons_self)
  | case5 c rest hfeed hpair hreturn line after hline ih =>
      obtain ⟨hsplit, hinside, -⟩ := ih fun d hd => h d (List.mem_cons_of_mem _ hd)
      rw [hline] at hsplit hinside
      refine ⟨congrArg (c :: ·) hsplit, ?_, nofun⟩
      dsimp only
      cases line with
      | nil => exact nofun
      | cons d line =>
          rw [List.dropLast_cons_of_ne_nil (List.cons_ne_nil d line), List.mem_cons, not_or]
          exact ⟨fun heq => hfeed heq.symm, hinside⟩

/-- Pieces that make up an ended row and more can be parted after it. -/
theorem exists_first_group {row more : List Char} (hrow : '\n' ∉ row)
    {pieces : List (List Char)} (hpieces : ∀ piece ∈ pieces, IsPiece piece)
    (h : pieces.flatten = row ++ '\n' :: more) :
    ∃ parts rest, pieces = parts ++ rest ∧ parts.flatten = row ++ ['\n'] ∧
      rest.flatten = more := by
  induction pieces generalizing row with
  | nil => exact absurd h (by simp)
  | cons piece pieces ih =>
      have hothers := fun other hother => hpieces other (List.mem_cons_of_mem _ hother)
      obtain ⟨hnonempty, hinside⟩ := hpieces piece List.mem_cons_self
      rw [List.flatten_cons] at h
      have hshorter : ∀ inner, row = piece ++ inner → pieces.flatten = inner ++ '\n' :: more →
          ∃ parts rest, piece :: pieces = parts ++ rest ∧ parts.flatten = row ++ ['\n'] ∧
            rest.flatten = more := by
        rintro inner rfl hinner
        obtain ⟨parts, rest, rfl, hparts, hrest⟩ :=
          ih (fun hmem => hrow (List.mem_append_right _ hmem)) hothers hinner
        exact ⟨piece :: parts, rest, rfl, by simp [hparts], hrest⟩
      rcases List.append_eq_append_iff.1 h with ⟨inner, hend, hmore⟩ | ⟨tail, hpiece, hmore⟩
      · exact hshorter inner hend hmore
      · cases tail with
        | nil => exact hshorter [] (by simp [hpiece]) hmore.symm
        | cons c tail =>
            obtain ⟨rfl, hafter⟩ := List.cons.inj hmore
            -- The end of the row is within the piece, so it is the end of the piece.
            have htail : tail = [] := by
              by_contra hne
              refine hinside ?_
              rw [hpiece, List.dropLast_append_of_ne_nil (List.cons_ne_nil _ _),
                List.dropLast_cons_of_ne_nil hne]
              exact List.mem_append_right _ List.mem_cons_self
            subst htail
            exact ⟨[piece], pieces, rfl, by simp [hpiece], hafter.symm⟩

/-- Pieces that make up ended rows fall into groups, one for each row. -/
theorem exists_groups {rows : List (List Char)} (hrows : ∀ row ∈ rows, '\n' ∉ row)
    {pieces : List (List Char)} (hpieces : ∀ piece ∈ pieces, IsPiece piece)
    (h : pieces.flatten = rows.flatMap (· ++ ['\n'])) :
    ∃ groups, pieces = groups.flatten ∧
      List.Forall₂ (fun row parts => parts.flatten = row ++ ['\n']) rows groups := by
  induction rows generalizing pieces with
  | nil =>
      have hnone : pieces = [] := by
        refine List.eq_nil_iff_forall_not_mem.2 fun piece hpiece => ?_
        exact (hpieces piece hpiece).nonempty (List.flatten_eq_nil_iff.1 h piece hpiece)
      exact ⟨[], hnone, .nil⟩
  | cons row rows ih =>
      rw [List.flatMap_cons, List.append_assoc] at h
      obtain ⟨parts, rest, rfl, hparts, hrest⟩ :=
        exists_first_group (hrows row List.mem_cons_self) hpieces h
      obtain ⟨groups, rfl, hgroups⟩ := ih
        (fun other hother => hrows other (List.mem_cons_of_mem _ hother))
        (fun piece hpiece => hpieces piece (List.mem_append_right _ hpiece)) hrest
      exact ⟨parts :: groups, rfl, .cons hparts hgroups⟩

end Rulebound.Text
