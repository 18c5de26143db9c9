import HostLookup.Proofs.Text.Lines
import HostLookup.Proofs.Worker.Terms

/-!
# What a requester makes of a file on disk

A data file on disk is bytes. Each of its lines comes to one thing at most: a host name that is
handed on, a host name that is turned away, or the complaint that the line is no text. Blank lines
come to nothing. Which it is does not depend on any other line, and the complaint names the number
of the line among all lines of the file.

* **`DataFile.expansion`** is what the lines of a file come to, and
  **`DataFile.findings_lineEvents`** says that it is what a requester finds in the file.
* **`DataFile.exact_expansion`** says what it is in terms of the bytes.
-/

namespace HostLookup

/-! ## Lines that are no text

Two kinds of failure come out of a file on disk, and they must be told apart: lines that are no
text, and host names that are turned away. -/

/-- The complaint about a line that is no text. -/
def DataFile.garbled (file : String) (k : Nat) : Failure :=
  .item (file ++ ":" ++ toString k) IoFailure.notUtf8.message

/-- Is this the complaint about a line that is no text? -/
def Failure.isGarbled : Failure → Bool
  | .item _ reason => reason = IoFailure.notUtf8.message
  | _ => false

theorem DataFile.isGarbled_garbled (file : String) (k : Nat) :
    (garbled file k).isGarbled = true := by
  simp [garbled, Failure.isGarbled]

/-- A host name is turned away for other reasons. -/
theorem Terms.isGarbled_of_screen {t : Terms} {host : String} {failure : Failure}
    (h : t.screen host = .fault failure) : failure.isGarbled = false := by
  have hreserved : IoFailure.notUtf8.message ≠ "reserved as the end-of-work marker" := by decide
  have htooLarge : ∀ length max, (QueueError.itemTooLarge length max).message ≠
      IoFailure.notUtf8.message := by
    intro length max heq
    -- the two texts differ in their first letters
    have hfirst := congrArg (fun text : String => text.toList.head?) heq
    simp [QueueError.message, IoFailure.message, IoFailure.notUtf8] at hfirst
  unfold Terms.screen at h
  split at h
  · obtain rfl := Finding.fault.inj h
    exact decide_eq_false hreserved.symm
  · split at h
    · contradiction
    · next max hlimit =>
      split at h
      · contradiction
      · obtain rfl := Finding.fault.inj h
        exact decide_eq_false (htooLarge host.utf8ByteSize max)

namespace DataFile

/-! ## Expansion, line by line

A line is read by itself, with its number; no line has a bearing on what another one comes to. So
the expansion is a `filterMap` over the numbered lines. -/

variable (t : Terms) (file : String)

/-- What a line comes to, by its number. -/
def yield (line : Bytes) (k : Nat) : Option Finding :=
  match Text.decode? line with
  | none => some (.fault (garbled file k))
  | some text => (hostOfLine text).map t.screen

theorem yield_of_decode {line : Bytes} {text : String} (h : Text.decode? line = some text)
    (k : Nat) : yield t file line k = (hostOfLine text).map t.screen := by
  rw [yield, h]

theorem yield_of_not_decode {line : Bytes} (h : Text.decode? line = none) (k : Nat) :
    yield t file line k = some (.fault (garbled file k)) := by
  rw [yield, h]

/-- What lines come to, numbered from `k` on. -/
def yields (k : Nat) (lines : List Bytes) : List Finding :=
  (lines.zipIdx k).filterMap fun p => yield t file p.1 p.2

/-- What a file comes to. -/
def expansion (bytes : Bytes) : List Finding :=
  yields t file 1 (physicalLines bytes)

theorem yields_cons (k : Nat) (line : Bytes) (lines : List Bytes) :
    yields t file k (line :: lines) =
      (yield t file line k).toList ++ yields t file (k + 1) lines := by
  rw [yields, List.zipIdx_cons, List.filterMap_cons]
  cases yield t file line k <;> rfl

/-- The lines behind others come to what they would come to without them, but for their numbers. -/
theorem yields_append (k : Nat) (lines later : List Bytes) :
    yields t file k (lines ++ later) =
      yields t file k lines ++ yields t file (k + lines.length) later := by
  rw [yields, List.zipIdx_append, List.filterMap_append]
  rfl

/-- **What a requester finds in a file** is what its lines come to. -/
theorem findings_lineEvents (bytes : Bytes) :
    t.findings file 1 (lineEvents bytes) = expansion t file bytes := by
  have hall : ∀ (lines : List Bytes) (k : Nat),
      t.findings file k (lines.map eventOfLine) = yields t file k lines := by
    intro lines
    induction lines with
    | nil => exact fun _ => rfl
    | cons line lines ih =>
      intro k
      rw [yields_cons, ← ih, List.map_cons, eventOfLine]
      cases hline : Text.decode? line with
      | some text =>
        rw [yield_of_decode t file hline]
        rfl
      | none =>
        rw [yield_of_not_decode t file hline]
        rfl
  rw [lineEvents, splitLines_eq, hall, expansion]

/-- A line comes to a host name that is handed on, if its host name can be. -/
theorem yield_eq_host_iff (line : Bytes) (k : Nat) (host : String) :
    yield t file line k = some (.host host) ↔ hostIn line = some host ∧ t.accepts host = true := by
  have hscreen : ∀ other, t.screen other = .host host ↔ other = host ∧ t.accepts host = true := by
    intro other
    have hhost := t.host?_screen other
    constructor
    · intro h
      rw [h] at hhost
      split at hhost
      · next haccepts =>
        obtain rfl := Option.some.inj hhost
        exact ⟨rfl, haccepts⟩
      · contradiction
    · rintro ⟨rfl, haccepts⟩
      rw [if_pos haccepts] at hhost
      cases hfinding : t.screen other with
      | host found =>
        rw [hfinding] at hhost
        rw [Option.some.inj hhost]
      | fault =>
        rw [hfinding] at hhost
        contradiction
  unfold hostIn
  cases hline : Text.decode? line with
  | none => simp [yield_of_not_decode t file hline]
  | some text =>
    rw [yield_of_decode t file hline, Option.bind_some]
    cases hostOfLine text with
    | none => simp
    | some other => simp [hscreen]

/-- A line comes to the complaint that it is no text exactly if it is none. -/
theorem yield_eq_garbled_iff (line : Bytes) (k : Nat) :
    yield t file line k = some (.fault (garbled file k)) ↔ ∀ text, Text.encode text ≠ line := by
  rw [← Text.decode?_eq_none_iff]
  cases hline : Text.decode? line with
  | none => exact iff_of_true (yield_of_not_decode t file hline k) rfl
  | some text =>
    rw [yield_of_decode t file hline]
    refine iff_of_false (fun h => ?_) (by simp)
    obtain ⟨host, -, hscreen⟩ := Option.map_eq_some_iff.mp h
    have hgarbled := isGarbled_garbled file k
    rw [Terms.isGarbled_of_screen hscreen] at hgarbled
    contradiction

/-- A line comes to nothing exactly if it is blank text. -/
theorem yield_eq_none_iff (line : Bytes) (k : Nat) :
    yield t file line k = none ↔ ∃ text, Text.encode text = line ∧ Text.trim text = "" := by
  have hdecode := Text.decode?_eq_some_iff line
  cases hline : Text.decode? line with
  | none =>
    rw [yield_of_not_decode t file hline]
    refine iff_of_false (by simp) ?_
    rintro ⟨text, hencode, -⟩
    rw [(hdecode text).mpr hencode] at hline
    contradiction
  | some text =>
    rw [hline] at hdecode
    rw [yield_of_decode t file hline, Option.map_eq_none_iff, hostOfLine_eq_none_iff]
    constructor
    · exact fun htrim => ⟨text, (hdecode text).mp rfl, htrim⟩
    · rintro ⟨other, hother, htrim⟩
      obtain rfl := Option.some.inj ((hdecode other).mpr hother)
      exact htrim

/-! ## Files as a whole

What is known of one line is carried over to the list of all of them: which host names come out, in
which order, and about which lines there is a complaint. -/

/-- The numbers of the lines that are no text. -/
def garbledLines (bytes : Bytes) : List Nat :=
  ((physicalLines bytes).zipIdx 1).filterMap fun p =>
    if Text.decode? p.1 = none then some p.2 else none

theorem mem_garbledLines_iff (bytes : Bytes) (k : Nat) :
    k ∈ garbledLines bytes ↔ ∃ i line, k = i + 1 ∧ (physicalLines bytes)[i]? = some line ∧
      ∀ text, Text.encode text ≠ line := by
  simp only [← Text.decode?_eq_none_iff]
  unfold garbledLines
  rw [List.mem_filterMap]
  constructor
  · rintro ⟨⟨line, number⟩, hmem, hgarbled⟩
    split at hgarbled
    · next hdecode =>
      obtain rfl := Option.some.inj hgarbled
      obtain ⟨hle, hline⟩ := List.mk_mem_zipIdx_iff_le_and_getElem?_sub.mp hmem
      exact ⟨number - 1, line, by omega, hline, hdecode⟩
    · contradiction
  · rintro ⟨i, line, rfl, hline, hdecode⟩
    refine ⟨(line, i + 1), List.mk_mem_zipIdx_iff_le_and_getElem?_sub.mpr ⟨by omega, ?_⟩, ?_⟩
    · simpa using hline
    · exact if_pos hdecode

/-- The host names that a file comes to are those in its lines that can be handed on. -/
theorem filterMap_host?_expansion (bytes : Bytes) :
    (expansion t file bytes).filterMap Finding.host? =
      ((physicalLines bytes).filterMap hostIn).filter t.accepts := by
  have hone : ∀ (line : Bytes) (k : Nat), (yield t file line k).bind Finding.host? =
      (hostIn line).filter t.accepts := by
    intro line k
    unfold hostIn
    cases hline : Text.decode? line with
    | none =>
      rw [yield_of_not_decode t file hline]
      rfl
    | some text =>
      rw [yield_of_decode t file hline, Option.bind_some]
      cases hostOfLine text with
      | none => rfl
      | some host => simpa [Option.filter_some] using t.host?_screen host
  have hnumbers := List.zipIdx_map_fst 1 (physicalLines bytes)
  rw [expansion, yields, List.filterMap_filterMap, List.filter_filterMap]
  simp only [hone]
  rw [← hnumbers, List.filterMap_map, hnumbers]
  rfl

/-- The complaints about lines that are no text are those about the lines that are none, in
order. -/
theorem filter_isGarbled_expansion (bytes : Bytes) :
    ((expansion t file bytes).filterMap Finding.fault?).filter Failure.isGarbled =
      (garbledLines bytes).map (garbled file) := by
  have hone : ∀ (line : Bytes) (k : Nat),
      ((yield t file line k).bind Finding.fault?).filter Failure.isGarbled =
        (if Text.decode? line = none then some k else none).map (garbled file) := by
    intro line k
    cases hline : Text.decode? line with
    | none =>
      rw [yield_of_not_decode t file hline, if_pos rfl]
      exact Option.filter_eq_some_iff.mpr ⟨rfl, isGarbled_garbled file k⟩
    | some text =>
      rw [yield_of_decode t file hline, if_neg (by simp)]
      cases hostOfLine text with
      | none => rfl
      | some host =>
        cases hscreen : t.screen host with
        | host => simp [hscreen, Finding.fault?]
        | fault failure =>
          simp [hscreen, Finding.fault?, Terms.isGarbled_of_screen hscreen, Option.filter_some]
  rw [expansion, yields, garbledLines, List.filterMap_filterMap, List.filter_filterMap,
    List.map_filterMap]
  simp only [hone]

/-- A host name that a file comes to is in one of its lines. -/
theorem hostIn_of_mem_expansion {bytes : Bytes} {host : String}
    (h : .host host ∈ expansion t file bytes) :
    ∃ line ∈ physicalLines bytes, hostIn line = some host := by
  obtain ⟨⟨line, k⟩, hmem, hyield⟩ := List.mem_filterMap.mp h
  exact ⟨line, List.fst_mem_of_mem_zipIdx hmem,
    ((yield_eq_host_iff t file line k host).mp hyield).1⟩

/-- What ends with a newline comes to the same, whatever follows, and what follows does so but for
the numbers. -/
theorem expansion_append (before rest : Bytes)
    (hbefore : before = [] ∨ before.getLast? = some 0x0A) :
    expansion t file (before ++ rest) = expansion t file before ++
      yields t file (1 + (physicalLines before).length) (physicalLines rest) := by
  rw [expansion, physicalLines_append before rest hbefore, yields_append]
  rfl

/-- **A carriage return in front of every newline makes no difference.** -/
theorem expansion_crlf (bytes : Bytes) :
    expansion t file (crlf bytes) = expansion t file bytes := by
  have hyield : ∀ {line line' : Bytes} (k : Nat), Chomped line line' →
      yield t file line' k = yield t file line k := by
    intro line line' k hchomped
    rcases hchomped with rfl | rfl
    · rfl
    · rw [yield, yield, decode?_append_return]
      cases Text.decode? line with
      | none => rfl
      | some text =>
        exact congrArg (Option.map t.screen) (hostOfLine_append_return text)
  have hall : ∀ {lines lines' : List Bytes} (k : Nat), List.Forall₂ Chomped lines lines' →
      yields t file k lines' = yields t file k lines := by
    intro lines lines' k hchomped
    induction hchomped generalizing k with
    | nil => rfl
    | cons hline _ ih => rw [yields_cons, yields_cons, hyield k hline, ih]
  have hlines := forall₂_crlf [] bytes
  rw [splitLines_eq, splitLines_eq] at hlines
  exact hall 1 hlines

/-- What the expansion of a file is, said of its bytes. -/
structure Exact (t : Terms) (file : String) (bytes : Bytes) : Prop where
  /-- A line comes to a host name exactly if it is text and something remains of the text without
  the white space at both ends, and can be handed on. -/
  host : ∀ line k host, yield t file line k = some (.host host) ↔
    (host ≠ "" ∧ ∃ text, Text.encode text = line ∧ Text.trim text = host) ∧ t.accepts host = true
  /-- It comes to the complaint about its number exactly if it is no text. -/
  fault : ∀ line k, yield t file line k = some (.fault (garbled file k)) ↔
    ∀ text, Text.encode text ≠ line
  /-- It comes to nothing exactly if it is blank. -/
  blank : ∀ line k, yield t file line k = none ↔
    ∃ text, Text.encode text = line ∧ Text.trim text = ""
  hosts : (expansion t file bytes).filterMap Finding.host? =
    ((physicalLines bytes).filterMap hostIn).filter t.accepts
  faults : ((expansion t file bytes).filterMap Finding.fault?).filter Failure.isGarbled =
    (garbledLines bytes).map (garbled file)
  numbers : ∀ k, k ∈ garbledLines bytes ↔ ∃ i line, k = i + 1 ∧
    (physicalLines bytes)[i]? = some line ∧ ∀ text, Text.encode text ≠ line
  /-- The lines in front of a line and those behind it come to the same, whatever the line is. -/
  apart : ∀ before line after, before = [] ∨ before.getLast? = some 0x0A → 0x0A ∉ line →
    bytes = before ++ (line ++ 0x0A :: after) →
    expansion t file bytes = expansion t file before ++
      ((yield t file (chomp line) (1 + (physicalLines before).length)).toList ++
        yields t file (1 + (physicalLines before).length + 1) (physicalLines after))
  /-- So do those in front of a last line that no newline ends. -/
  last : ∀ before line, before = [] ∨ before.getLast? = some 0x0A → 0x0A ∉ line → line ≠ [] →
    bytes = before ++ line →
    expansion t file bytes = expansion t file before ++
      (yield t file line (1 + (physicalLines before).length)).toList
  clean : ∀ host, .host host ∈ expansion t file bytes → IsClean host
  crlf : expansion t file (crlf bytes) = expansion t file bytes

/-- **What the expansion of a file is.** -/
theorem exact_expansion (bytes : Bytes) : Exact t file bytes where
  host line k host := by rw [yield_eq_host_iff, hostIn_eq_some_iff]
  fault := yield_eq_garbled_iff t file
  blank := yield_eq_none_iff t file
  hosts := filterMap_host?_expansion t file bytes
  faults := filter_isGarbled_expansion t file bytes
  numbers := mem_garbledLines_iff bytes
  apart before line after hbefore hline hbytes := by
    rw [hbytes, expansion_append t file before _ hbefore, physicalLines_cons after hline,
      yields_cons]
  last before line hbefore hline hne hbytes := by
    rw [hbytes, expansion_append t file before _ hbefore, physicalLines_last hline, if_neg hne,
      yields_cons]
    exact congrArg _ (List.append_nil _)
  clean host hmem := by
    obtain ⟨line, hline, hhost⟩ := hostIn_of_mem_expansion t file hmem
    exact isClean_of_hostIn (newline_notMem_physicalLines hline) hhost
  crlf := expansion_crlf t file bytes

end DataFile

end HostLookup
