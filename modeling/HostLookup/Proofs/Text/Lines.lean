import HostLookup.DataFile
import HostLookup.Proofs.Text.Utf8

/-!
# The lines of a data file

The reader of a data file splits the bytes as it goes. What it comes to can be said without it: the
newline bytes cut the file into pieces, each piece that a newline ends is a line, without one
carriage return at its end, and a last piece that nothing ends is a line unless it is empty. A line
is text exactly if it is UTF-8, and its host name is what remains of the text without the white
space at both ends.

* **`DataFile.splitLines_eq`**: the reader comes to these lines.
* **`DataFile.hostIn_eq_some_iff`**: what the host name in a line is.
* **`DataFile.forall₂_crlf`**: with a carriage return put in front of every newline the same lines
  come out, or lines that hold a carriage return more, and **`DataFile.hostOfLine_append_return`**:
  that makes no difference to the host name in a line.
-/

namespace HostLookup

/-! ## Trimming

Trimming drops blanks from the front, then from the back of what is left. So a text that was trimmed
is a part of the text, and both of its ends, if it has any, are no blanks. -/

namespace Text

/-- What is left without the blanks in front does not begin with one. -/
theorem isBlank_head?_dropWhile (cs : List Char) (c : Char)
    (h : (cs.dropWhile isBlank).head? = some c) : isBlank c = false := by
  have hhead := List.head?_dropWhile_not isBlank cs
  rwa [h] at hhead

/-- Without the blanks at its end a text is a beginning of itself. -/
theorem trimmed_isPrefix (cs : List Char) : trimmed cs <+: cs.dropWhile isBlank := by
  rw [trimmed, ← List.reverse_suffix, List.reverse_reverse]
  exact List.dropWhile_suffix _

/-- What was trimmed does not begin with a blank. -/
theorem isBlank_head?_trimmed (cs : List Char) (c : Char) (h : (trimmed cs).head? = some c) :
    isBlank c = false := by
  obtain ⟨rest, hrest⟩ := trimmed_isPrefix cs
  refine isBlank_head?_dropWhile cs c ?_
  rw [← hrest, List.head?_append, h]
  rfl

/-- Nor does it end with one. -/
theorem isBlank_getLast?_trimmed (cs : List Char) (c : Char)
    (h : (trimmed cs).getLast? = some c) : isBlank c = false := by
  rw [trimmed, List.getLast?_reverse] at h
  exact isBlank_head?_dropWhile _ c h

/-- Trimming adds no characters. -/
theorem mem_of_mem_trimmed {cs : List Char} {c : Char} (h : c ∈ trimmed cs) : c ∈ cs :=
  (List.dropWhile_sublist _).subset ((trimmed_isPrefix cs).subset h)

/-- A blank more at the end is trimmed as well. -/
theorem trimmed_append_blank (cs : List Char) {c : Char} (h : isBlank c = true) :
    trimmed (cs ++ [c]) = trimmed cs := by
  unfold trimmed
  rw [List.dropWhile_append]
  -- either the text is all blank, or its last character is still there
  split
  · next hempty =>
    rw [List.isEmpty_iff.mp hempty, List.dropWhile_cons_of_pos h]
    rfl
  · rw [List.reverse_append, List.reverse_singleton, List.singleton_append,
      List.dropWhile_cons_of_pos h]

end Text

namespace DataFile

/-! ## Lines

The reader carries the bytes of the line that it is reading, in reverse order. Told for any such
beginning (`splitLines_eq_linesOf`), what it comes to follows by induction on the bytes. -/

/-- A piece of a file without the carriage return of its line end. -/
def chomp (piece : Bytes) : Bytes :=
  if piece.getLast? = some 0x0D then piece.dropLast else piece

/-- The lines that the pieces between newlines make. Behind the last newline there is no line if
there is nothing. -/
def linesOf : List Bytes → List Bytes
  | [] => []
  | [last] => if last = [] then [] else [last]
  | piece :: more :: rest => chomp piece :: linesOf (more :: rest)

/-- The lines of a file. -/
def physicalLines (bytes : Bytes) : List Bytes :=
  linesOf (bytes.splitOn 0x0A)

/-- A piece with another one behind it was ended by a newline. -/
theorem linesOf_cons (piece : Bytes) {pieces : List Bytes} (h : pieces ≠ []) :
    linesOf (piece :: pieces) = chomp piece :: linesOf pieces := by
  cases pieces with
  | nil => contradiction
  | cons more rest => rfl

/-- In reverse, the carriage return of a line end is the first byte. -/
theorem reverse_dropReturn (line : Bytes) : (dropReturn line).reverse = chomp line.reverse := by
  unfold chomp
  cases line with
  | nil => rfl
  | cons byte line =>
    by_cases hbyte : byte = 0x0D
    · subst hbyte
      simp [dropReturn]
    · have hdrop : dropReturn (byte :: line) = byte :: line := by
        unfold dropReturn
        split
        · next heq => exact absurd (List.cons.inj heq).1 hbyte
        · rfl
      rw [hdrop, if_neg (by simpa using hbyte)]

/-- Nothing has been read since the beginning. -/
theorem modifyHead_nil_append (pieces : List Bytes) : pieces.modifyHead ([] ++ ·) = pieces := by
  cases pieces <;> rfl

/-- What has been read since the last newline belongs to the first piece. -/
theorem splitLines_eq_linesOf (line bytes : Bytes) :
    splitLines line bytes = linesOf ((bytes.splitOn 0x0A).modifyHead (line.reverse ++ ·)) := by
  -- induction on the bytes: a newline ends the piece, and any other byte makes it longer
  induction bytes generalizing line with
  | nil =>
    rw [splitLines, List.splitOn_nil, List.modifyHead_cons, List.append_nil, linesOf]
    cases line <;> simp
  | cons byte bytes ih =>
    rw [splitLines, List.splitOn_cons_eq_if_modifyHead]
    by_cases hbyte : byte = 0x0A
    · subst hbyte
      rw [if_pos rfl, if_pos (by simp), List.modifyHead_cons, List.append_nil,
        linesOf_cons _ (List.splitOn_ne_nil _ _), reverse_dropReturn, ih, List.reverse_nil,
        modifyHead_nil_append]
    · rw [if_neg hbyte, if_neg (by simpa using hbyte), ih, List.modifyHead_modifyHead]
      congr 2
      funext piece
      simp

/-- **The reader comes to the lines of the file.** -/
theorem splitLines_eq (bytes : Bytes) : splitLines [] bytes = physicalLines bytes := by
  rw [splitLines_eq_linesOf, List.reverse_nil, modifyHead_nil_append, physicalLines]

/-- The lines of what ends with a newline are not touched by what follows. -/
theorem physicalLines_append (before rest : Bytes)
    (hbefore : before = [] ∨ before.getLast? = some 0x0A) :
    physicalLines (before ++ rest) = physicalLines before ++ physicalLines rest := by
  -- the reader has nothing in its hands where `rest` begins
  have hall : ∀ line : Bytes, (before = [] → line = []) →
      splitLines line (before ++ rest) = splitLines line before ++ splitLines [] rest := by
    intro line hnil
    induction before generalizing line with
    | nil =>
      obtain rfl := hnil rfl
      rfl
    | cons byte before ih =>
      have hlater : before = [] ∨ before.getLast? = some 0x0A := by
        cases before with
        | nil => exact Or.inl rfl
        | cons => simpa using hbefore
      rw [List.cons_append, splitLines, splitLines]
      split
      · rw [ih hlater [] fun _ => rfl, List.cons_append]
      · next hbyte =>
        refine ih hlater (byte :: line) fun hlast => ?_
        subst hlast
        simp [hbyte] at hbefore
  rw [← splitLines_eq, ← splitLines_eq, ← splitLines_eq]
  exact hall [] fun _ => rfl

/-- A first line that a newline ends. -/
theorem physicalLines_cons {line : Bytes} (rest : Bytes) (hline : 0x0A ∉ line) :
    physicalLines (line ++ 0x0A :: rest) = chomp line :: physicalLines rest := by
  rw [physicalLines, List.splitOn_append_cons_self_of_not_mem hline,
    linesOf_cons _ (List.splitOn_ne_nil _ _)]
  rfl

/-- What stands behind the last newline is a line, unless it is empty. -/
theorem physicalLines_last {line : Bytes} (hline : 0x0A ∉ line) :
    physicalLines line = if line = [] then [] else [line] := by
  rw [physicalLines, List.splitOn_eq_singleton hline]
  rfl

/-- There is no newline in a line. -/
theorem newline_notMem_splitLines {line bytes : Bytes} (hline : 0x0A ∉ line) :
    ∀ other ∈ splitLines line bytes, 0x0A ∉ other := by
  have hdrop : ∀ {line : Bytes}, 0x0A ∉ line → 0x0A ∉ (dropReturn line).reverse := by
    intro line hline hmem
    rw [List.mem_reverse] at hmem
    unfold dropReturn at hmem
    split at hmem
    · exact hline (List.mem_cons_of_mem _ hmem)
    · exact hline hmem
  induction bytes generalizing line with
  | nil =>
    intro other hother
    rw [splitLines] at hother
    split at hother
    · contradiction
    · rw [List.mem_singleton.mp hother, List.mem_reverse]
      exact hline
  | cons byte bytes ih =>
    intro other hother
    rw [splitLines] at hother
    split at hother
    · rcases List.mem_cons.mp hother with rfl | hlater
      · exact hdrop hline
      · exact ih List.not_mem_nil other hlater
    · next hbyte =>
      refine ih ?_ other hother
      rw [List.mem_cons, not_or]
      exact ⟨fun heq => hbyte heq.symm, hline⟩

/-- So there is none in a line of a file. -/
theorem newline_notMem_physicalLines {line bytes : Bytes} (h : line ∈ physicalLines bytes) :
    0x0A ∉ line :=
  newline_notMem_splitLines List.not_mem_nil line (splitLines_eq bytes ▸ h)

/-! ## Host names

A host name is what remains of a line, if the line is text and something remains. -/

/-- The host name in a line of bytes. -/
def hostIn (line : Bytes) : Option String :=
  (Text.decode? line).bind hostOfLine

/-- A line of text has a host name if it is not blank. -/
theorem hostOfLine_eq_some_iff (line host : String) :
    hostOfLine line = some host ↔ Text.trim line = host ∧ host ≠ "" := by
  unfold hostOfLine
  constructor
  · intro h
    dsimp only at h
    split at h
    · contradiction
    · next hne =>
      obtain rfl := Option.some.inj h
      exact ⟨rfl, hne⟩
  · rintro ⟨rfl, hne⟩
    exact if_neg hne

/-- **The host name in a line** is its text without the white space at both ends, if the line is
text and something remains of it. -/
theorem hostIn_eq_some_iff (line : Bytes) (host : String) :
    hostIn line = some host ↔
      host ≠ "" ∧ ∃ text, Text.encode text = line ∧ Text.trim text = host := by
  rw [hostIn, Option.bind_eq_some_iff]
  constructor
  · rintro ⟨text, hdecode, hhost⟩
    obtain ⟨htrim, hne⟩ := (hostOfLine_eq_some_iff text host).mp hhost
    exact ⟨hne, text, (Text.decode?_eq_some_iff line text).mp hdecode, htrim⟩
  · rintro ⟨hne, text, hencode, htrim⟩
    exact ⟨text, (Text.decode?_eq_some_iff line text).mpr hencode,
      (hostOfLine_eq_some_iff text host).mpr ⟨htrim, hne⟩⟩

/-- A host name is not empty, has no white space at its ends, and no newline in it. -/
structure IsClean (host : String) : Prop where
  ne_empty : host ≠ ""
  head : ∀ c, host.toList.head? = some c → Text.isBlank c = false
  last : ∀ c, host.toList.getLast? = some c → Text.isBlank c = false
  newline : 0x0A ∉ Text.encode host

/-- **Every host name is clean.** -/
theorem isClean_of_hostIn {line : Bytes} {host : String} (hline : 0x0A ∉ line)
    (hhost : hostIn line = some host) : IsClean host := by
  obtain ⟨hne, text, rfl, rfl⟩ := (hostIn_eq_some_iff line host).mp hhost
  refine ⟨hne, ?_, ?_, ?_⟩
  · rw [Text.toList_trim]
    exact Text.isBlank_head?_trimmed text.toList
  · rw [Text.toList_trim]
    exact Text.isBlank_getLast?_trimmed text.toList
  · rw [Text.newline_mem_encode_iff] at hline ⊢
    rw [Text.toList_trim]
    exact fun hmem => hline (Text.mem_of_mem_trimmed hmem)

/-! ## Carriage returns

Whether the lines of a file end with a newline alone or with a carriage return before it makes no
difference to its host names: the reader drops one of them, and trimming drops any other. -/

/-- A file with a carriage return put in front of each newline. -/
def crlf (bytes : Bytes) : Bytes :=
  bytes.flatMap fun byte => if byte = 0x0A then [0x0D, 0x0A] else [byte]

/-- One line is the other one, or has a carriage return more. -/
def Chomped (line line' : Bytes) : Prop :=
  line' = line ∨ line' = line ++ [0x0D]

/-- **Put in front of every newline, a carriage return adds to a line that ends with another one**,
and to no other line. -/
theorem forall₂_crlf (line bytes : Bytes) :
    List.Forall₂ Chomped (splitLines line bytes) (splitLines line (crlf bytes)) := by
  have hdrop : ∀ line : Bytes, Chomped (dropReturn line).reverse line.reverse := by
    intro line
    unfold dropReturn
    split
    · exact Or.inr (List.reverse_cons ..)
    · exact Or.inl rfl
  induction bytes generalizing line with
  | nil =>
    rw [crlf, List.flatMap_nil, splitLines]
    split
    · exact .nil
    · exact .cons (Or.inl rfl) .nil
  | cons byte bytes ih =>
    by_cases hbyte : byte = 0x0A
    · subst hbyte
      exact .cons (hdrop line) (ih [])
    · have hcrlf : crlf (byte :: bytes) = byte :: crlf bytes := by
        rw [crlf, List.flatMap_cons, if_neg hbyte]
        rfl
      rw [hcrlf, splitLines, splitLines, if_neg hbyte, if_neg hbyte]
      exact ih (byte :: line)

/-- A line with a carriage return more is text exactly if the line is. -/
theorem decode?_append_return (line : Bytes) :
    Text.decode? (line ++ [0x0D]) = (Text.decode? line).map (· ++ "\r") := by
  have hreturn : String.utf8EncodeChar '\r' = [0x0D] := by decide
  cases hline : Text.decode? line with
  | some text =>
    rw [Text.decode?_eq_some_iff] at hline
    rw [Option.map_some, Text.decode?_eq_some_iff, ← hline, Text.encode_eq, Text.encode_eq,
      String.toList_append, List.flatMap_append]
    exact congrArg _ hreturn
  | none =>
    rw [Text.decode?_eq_none_iff] at hline
    rw [Option.map_none, Text.decode?_eq_none_iff]
    intro text htext
    rw [Text.encode_eq] at htext
    rcases List.eq_nil_or_concat text.toList with hnil | ⟨cs, c, hcs⟩
    · rw [hnil] at htext
      simp at htext
    · -- the last byte is that of the last character, which is a carriage return
      rw [hcs, List.concat_eq_append, List.flatMap_append, List.flatMap_singleton] at htext
      have hmem : UInt8.ofNat '\r'.toNat ∈ String.utf8EncodeChar c := by
        have hlast := congrArg List.getLast? htext
        rw [List.getLast?_concat, List.getLast?_append] at hlast
        rcases hbytes : (String.utf8EncodeChar c).getLast? with _ | byte
        · exact absurd (List.getLast?_eq_none_iff.mp hbytes) (by simp)
        · rw [hbytes] at hlast
          obtain rfl : byte = 0x0D := by simpa using hlast
          exact List.mem_of_getLast? hbytes
      obtain rfl := (Text.mem_encodeChar_iff (by decide) c).mp hmem
      rw [hreturn] at htext
      refine hline (String.ofList cs) ?_
      rw [Text.encode_ofList]
      exact List.append_cancel_right htext

/-- **A carriage return at its end makes no difference** to the host name in a line. -/
theorem hostOfLine_append_return (text : String) : hostOfLine (text ++ "\r") = hostOfLine text := by
  have htrim : Text.trim (text ++ "\r") = Text.trim text := by
    rw [Text.trim, Text.trim, String.toList_append]
    exact congrArg String.ofList (Text.trimmed_append_blank text.toList (c := '\r') (by decide))
  rw [hostOfLine, hostOfLine, htrim]

end DataFile

end HostLookup
