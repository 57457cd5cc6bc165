import PhpIndex.Proofs.Text.Segments
import PhpIndex.Proofs.Text.Utf8
import PhpIndex.SourceFiles

/-!
The lines of source files.

* `CutAfter`: a content cut after each of its line feeds;
* `readNth?`: the line that is found by reading up to one line feed after the other;
* `IsTextOf`: the text of a line, which is decoded and loses the line feeds and carriage returns at
  its end;
* `cutAfter_iff`: a content is cut in one way only;
* `CutAfter.readNth?_eq`: the reading comes to the lines one after the other;
* `CutAfter.length_eq`: there is a line for each line feed, and one more for what stands after the
  last;
* `SourceFiles.LinesRead`: what a file of a known content gives for each line number;
* `SourceFiles.linesRead`: **the lines that are read are the texts of the lines that the content is
  cut into**.
-/

namespace PhpIndex

namespace Text

variable {content line : List UInt8} {ls : List (List UInt8)}

/-! ### Pieces -/

/-- What is read up to the next line feed, which is read as well, and what is left then. -/
def readPiece : List UInt8 → List UInt8 × List UInt8
  | [] => ([], [])
  | b :: rest =>
      if b = lineFeed then ([b], rest) else (b :: (readPiece rest).1, (readPiece rest).2)

lemma readPiece_of_not_mem (h : lineFeed ∉ content) : readPiece content = (content, []) := by
  induction content with
  | nil => rfl
  | cons b rest ih =>
      have hb := List.ne_of_not_mem_cons h
      have hrest := List.not_mem_of_not_mem_cons h
      rw [readPiece, if_neg (Ne.symm hb), ih hrest]

lemma readPiece_append_lineFeed {piece : List UInt8} (h : lineFeed ∉ piece)
    (content : List UInt8) :
    readPiece (piece ++ lineFeed :: content) = (piece ++ [lineFeed], content) := by
  induction piece with
  | nil => rw [List.nil_append, readPiece, if_pos rfl]; rfl
  | cons b piece ih =>
      have hb := List.ne_of_not_mem_cons h
      have hpiece := List.not_mem_of_not_mem_cons h
      rw [List.cons_append, readPiece, if_neg (Ne.symm hb), ih hpiece]
      rfl

/-- The first line is read first. -/
lemma lines_eq_readPiece (ne_nil : content ≠ []) :
    lines content = (readPiece content).1 :: lines (readPiece content).2 := by
  induction content with
  | nil => exact absurd rfl ne_nil
  | cons b rest ih =>
      rw [lines, readPiece]
      split_ifs with hb
      · rw [hb]
      · obtain rfl | hne := eq_or_ne rest []
        · rfl
        · rw [ih hne]

lemma lines_of_not_mem (ne_nil : content ≠ []) (h : lineFeed ∉ content) :
    lines content = [content] := by
  rw [lines_eq_readPiece ne_nil, readPiece_of_not_mem h]
  rfl

lemma lines_append_lineFeed {piece : List UInt8} (h : lineFeed ∉ piece) (content : List UInt8) :
    lines (piece ++ lineFeed :: content) = (piece ++ [lineFeed]) :: lines content := by
  rw [lines_eq_readPiece (List.append_ne_nil_of_right_ne_nil _ (List.cons_ne_nil _ _)),
    readPiece_append_lineFeed h]

/-! ### The cut -/

/-- A content cut after each of its line feeds. What stands after the last one is a line unless it
is empty. -/
inductive CutAfter : List UInt8 → List (List UInt8) → Prop
  | nil : CutAfter [] []
  | last {piece : List UInt8} (ne_nil : piece ≠ []) (h : lineFeed ∉ piece) :
      CutAfter piece [piece]
  | cons {piece content : List UInt8} {ls : List (List UInt8)} (h : lineFeed ∉ piece)
      (rest : CutAfter content ls) :
      CutAfter (piece ++ lineFeed :: content) ((piece ++ [lineFeed]) :: ls)

/-- Before its first line feed a line grows byte by byte. -/
lemma CutAfter.cons_of_ne {b : UInt8} (hb : b ≠ lineFeed) (h : CutAfter content (line :: ls)) :
    CutAfter (b :: content) ((b :: line) :: ls) := by
  have hcons {piece : List UInt8} (hpiece : lineFeed ∉ piece) : lineFeed ∉ b :: piece := by
    simp [hb.symm, hpiece]
  cases h with
  | last _ hpiece => exact .last (List.cons_ne_nil _ _) (hcons hpiece)
  | cons hpiece rest =>
      rw [← List.cons_append, ← List.cons_append]
      exact .cons (hcons hpiece) rest

lemma cutAfter_lines (content : List UInt8) : CutAfter content (lines content) := by
  induction content with
  | nil => exact .nil
  | cons b rest ih =>
      rw [lines]
      split_ifs with hb
      · subst hb
        exact CutAfter.cons (List.not_mem_nil (a := lineFeed)) ih
      · split
        next h =>
          rw [h] at ih
          cases ih
          exact .last (List.cons_ne_nil _ _) (by simpa using Ne.symm hb)
        next h => exact CutAfter.cons_of_ne hb (h ▸ ih)

/-- A content is cut in one way only. -/
theorem cutAfter_iff : CutAfter content ls ↔ ls = lines content := by
  constructor
  · intro h
    induction h with
    | nil => rfl
    | last ne_nil h => exact (lines_of_not_mem ne_nil h).symm
    | cons h _ ih => rw [lines_append_lineFeed h, ih]
  · rintro rfl
    exact cutAfter_lines content

/-- There is a line for each line feed, and one more for what stands after the last. -/
theorem CutAfter.length_eq (h : CutAfter content ls) :
    ls.length = content.count lineFeed +
      if content = [] ∨ content.getLast? = some lineFeed then 0 else 1 := by
  induction h with
  | nil => rfl
  | @last piece ne_nil h =>
      have hlast : ¬ (piece = [] ∨ piece.getLast? = some lineFeed) := by
        rintro (hnil | hlast)
        · exact ne_nil hnil
        · exact h (List.mem_of_getLast? hlast)
      rw [if_neg hlast, List.count_eq_zero_of_not_mem h]
      rfl
  | @cons piece content ls h _ ih =>
      have hlast : (piece ++ lineFeed :: content = [] ∨
          (piece ++ lineFeed :: content).getLast? = some lineFeed) ↔
            content = [] ∨ content.getLast? = some lineFeed := by
        cases content <;> simp [List.getLast?_cons]
      rw [List.length_cons, ih, List.count_append, List.count_eq_zero_of_not_mem h,
        List.count_cons_self, if_congr hlast rfl rfl]
      omega

/-! ### Reading piece after piece -/

/-- What is read last when some pieces before it are passed over, unless there is nothing left to
read by then. -/
def readNth? : Nat → List UInt8 → Option (List UInt8)
  | 0, content => if (readPiece content).1 = [] then none else some (readPiece content).1
  | n + 1, content =>
      if (readPiece content).1 = [] then none else readNth? n (readPiece content).2

/-- The reading comes to the lines one after the other, and to nothing after the last. -/
theorem CutAfter.readNth?_eq (h : CutAfter content ls) (n : Nat) :
    readNth? n content = ls[n]? := by
  have hnil (n : Nat) : readNth? n [] = none := by cases n <;> rfl
  induction h generalizing n with
  | nil => exact hnil n
  | last ne_nil h =>
      cases n with
      | zero => rw [readNth?, readPiece_of_not_mem h, if_neg ne_nil]; rfl
      | succ n => rw [readNth?, readPiece_of_not_mem h, if_neg ne_nil, hnil]; rfl
  | @cons piece content ls h _ ih =>
      have hne : piece ++ [lineFeed] ≠ [] := by simp
      cases n with
      | zero => rw [readNth?, readPiece_append_lineFeed h, if_neg hne]; rfl
      | succ n => rw [readNth?, readPiece_append_lineFeed h, if_neg hne, ih]; rfl

/-! ### The text of a line -/

/-- The text of a line: what its bytes are decoded to, without the line feeds and carriage returns
at the end. -/
structure IsTextOf (line : List UInt8) (text : String) : Prop where
  decodes : ∃ ending, Utf8.Decodes line (text.toList ++ ending) ∧ ∀ c ∈ ending, c = '\n' ∨ c = '\r'
  trimmed : ∀ c ∈ text.toList.getLast?, c ≠ '\n' ∧ c ≠ '\r'

lemma isLineEnd_iff {c : Char} : isLineEnd c ↔ c = '\n' ∨ c = '\r' := by
  simp [isLineEnd]

/-- Each line has one text. -/
theorem isTextOf_iff {text : String} : IsTextOf line text ↔ text = lineText line := by
  obtain ⟨cs, hcs⟩ : ∃ cs, Utf8.decodeFrom none line = cs := ⟨_, rfl⟩
  have htrim : (lineText line).toList = cs.rdropWhile isLineEnd := by
    rw [lineText, toList_trimEnd, Utf8.decodeLossy, String.toList_ofList, hcs]
  rw [← String.toList_inj, htrim]
  constructor
  · rintro ⟨⟨ending, hdecodes, hending⟩, htrimmed⟩
    rw [Utf8.decodes_iff, hcs] at hdecodes
    rw [hdecodes]
    refine (rdropWhile_append_stop (fun c hc => isLineEnd_iff.mpr (hending c hc)) ?_).symm
    intro c hc
    rw [← Bool.not_eq_true, isLineEnd_iff, not_or]
    exact htrimmed c hc
  · intro h
    refine ⟨⟨cs.rtakeWhile isLineEnd, ?_, fun c hc => ?_⟩, fun c hc => ?_⟩
    · rw [h, List.rdropWhile_append_rtakeWhile, Utf8.decodes_iff, hcs]
    · exact isLineEnd_iff.mp (List.mem_rtakeWhile_imp hc)
    · rw [h] at hc
      obtain ⟨hne, rfl⟩ := List.mem_getLast?_eq_getLast hc
      have hlast := List.rdropWhile_last_not isLineEnd cs hne
      exact not_or.mp (mt isLineEnd_iff.mpr hlast)

end Text

/-! ### Files -/

namespace SourceFiles

open Text

/-- What a file with a content gives for each line number. -/
structure LinesRead (t : SourceFiles) (path : String) (content : List UInt8) : Prop where
  cut : ∃! ls, CutAfter content ls
  zero : t.readLine path 0 = .ok none
  line : ∀ {ls : List (List UInt8)} {n : Nat} {line : List UInt8}, CutAfter content ls →
    ls[n]? = some line → ∃ text, t.readLine path (n + 1) = .ok (some text) ∧
      ∀ text', IsTextOf line text' ↔ text' = text
  /-- Behind the last line there is nothing. -/
  past : ∀ {ls : List (List UInt8)} {n : Nat}, CutAfter content ls → ls.length ≤ n →
    t.readLine path (n + 1) = .ok none
  /-- The lines are numbered from one, without a gap. -/
  numbered : ∀ n, (∃ text, t.readLine path n = .ok (some text)) ↔
    1 ≤ n ∧ n ≤ content.count lineFeed +
      if content = [] ∨ content.getLast? = some lineFeed then 0 else 1
  /-- The lines are come to by reading. -/
  read : ∀ n, t.readLine path (n + 1) = .ok ((readNth? n content).map lineText)

variable {t : SourceFiles} {path : String} {content : List UInt8}

lemma readLine_succ (h : t.read path = .ok content) (n : Nat) :
    t.readLine path (n + 1) = .ok ((lines content)[n]?.map lineText) := by
  rw [readLine, if_neg (Nat.succ_ne_zero n), h]
  rfl

/-- A line that is not there cannot be read. -/
lemma readLine_ne_some {n : Nat} (h : n = 0 ∨ (∃ e, t.read path = .error e) ∨
    ∃ content ls, t.read path = .ok content ∧ CutAfter content ls ∧ ls.length < n)
    (text : String) : t.readLine path n ≠ .ok (some text) := by
  rcases h with rfl | ⟨e, he⟩ | ⟨content, ls, hcontent, hcut, hlength⟩
  · rw [readLine, if_pos rfl]
    simp
  · rw [readLine, he]
    split_ifs <;> simp [Except.map]
  · obtain ⟨n, rfl⟩ := Nat.exists_eq_add_one_of_ne_zero (Nat.ne_zero_of_lt hlength)
    rw [readLine_succ hcontent, ← cutAfter_iff.mp hcut,
      List.getElem?_eq_none (Nat.le_of_lt_succ hlength)]
    simp

/-- The lines that are read are the texts of the lines that the content is cut into. -/
theorem linesRead (h : t.read path = .ok content) : LinesRead t path content where
  cut := ⟨lines content, cutAfter_lines content, fun ls => cutAfter_iff.mp⟩
  zero := rfl
  line {ls n line} hcut hline := by
    rw [cutAfter_iff.mp hcut] at hline
    rw [readLine_succ h, hline]
    exact ⟨lineText line, rfl, fun _ => isTextOf_iff⟩
  past {ls n} hcut hn := by
    rw [cutAfter_iff.mp hcut] at hn
    rw [readLine_succ h, List.getElem?_eq_none hn]
    rfl
  numbered n := by
    rw [← (cutAfter_lines content).length_eq]
    cases n with
    | zero => simp [readLine]
    | succ n =>
        rw [readLine_succ h]
        simp only [Except.ok.injEq, Option.map_eq_some_iff, Nat.le_add_left, true_and]
        constructor
        · rintro ⟨text, line, hline, -⟩
          exact (List.getElem?_eq_some_iff.mp hline).1
        · intro hn
          exact ⟨_, _, List.getElem?_eq_getElem hn, rfl⟩
  read n := by rw [readLine_succ h, (cutAfter_lines content).readNth?_eq]

/-- A file at an absolute path that has three lines, with both kinds of line ends, a byte that is
not valid, an empty line and no line feed at its end. -/
theorem linesRead_mixed_endings :
    let content : List UInt8 := [0x61, 0x0D, 0x0A, 0x0A, 0xFF]
    (ofPaths [("/srv/a.php", content)]).read "/srv/a.php" = .ok content ∧
      LinesRead (ofPaths [("/srv/a.php", content)]) "/srv/a.php" content := by
  have hread : (ofPaths [("/srv/a.php", [0x61, 0x0D, 0x0A, 0x0A, 0xFF])]).read "/srv/a.php" =
      .ok [0x61, 0x0D, 0x0A, 0x0A, 0xFF] := by decide
  exact ⟨hread, linesRead hread⟩

end SourceFiles

end PhpIndex
