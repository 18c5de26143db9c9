import HostLookup.Proofs.Worker.Ends

/-!
# What the items of a run come to

In a world without panics it is settled beforehand what a worker does for an item: it puts host
names into the next queue, writes lines and counts, and the list of these deeds depends on the item
and on the terms of the run alone.

* **`Terms.findingsIn`**: what a requester finds in a data file, host names and failures in order.
* **`Terms.deeds`**: the deeds of a worker for an item.
* **`Terms.hostsIn`**, **`Terms.faultsIn`**, **`Terms.answer`**: what others see of the deeds.
-/

namespace HostLookup

/-! ## Terms

`Terms` is what a world without panics answers, the same at all times, and the deeds for an item are
computed from it. Files are told finding by finding; a lookup has one answer. -/

/-- Neither opening a data file nor reading on in it panics. -/
def Opening.Readable : Opening → Prop
  | .refused _ => True
  | .opened events => .panicked ∉ events
  | .panicked => False

instance : DecidablePred Opening.Readable
  | .refused _ => .isTrue trivial
  | .opened events => inferInstanceAs (Decidable (.panicked ∉ events))
  | .panicked => .isFalse id

/-- The lines of text that can be read, up to the first failure that ends the reading. -/
def LineEvent.readable : List LineEvent → List String
  | [] => []
  | .line text :: rest => text :: readable rest
  | .failed failure :: rest => if failure.kind = .invalidData then readable rest else []
  | .panicked :: _ => []

/-- What decides what the items of a run come to, in a world without panics. -/
structure Terms where
  sentinel : Sentinel
  notResolved : String
  /-- The bytes of the longest host name that can be handed on, if there is somebody to hand on
  to. -/
  limit : Option Nat
  opening : String → Opening
  readable : ∀ file, (opening file).Readable
  lookup : String → Lookup
  lookup_ne_panicked : ∀ host, lookup host ≠ .panicked

/-- What a requester finds in a data file. -/
inductive Finding where
  | host (name : String)
  | fault (failure : Failure)
  deriving DecidableEq, Repr

/-- One of the things that a worker does for an item. -/
inductive Deed where
  /-- Puts a host name into the next queue. -/
  | put (host : String)
  /-- Counts it. -/
  | produced
  /-- Counts a name without an address. -/
  | missed
  /-- Counts a failure. -/
  | erred
  /-- Writes to the log of its stage. -/
  | log (line : String)
  /-- Writes to the standard error. -/
  | report (line : String)
  deriving DecidableEq, Repr

namespace Finding

/-- The host name that was found, if one was. -/
def host? : Finding → Option String
  | .host name => some name
  | .fault _ => none

/-- The failure that was found, if one was. -/
def fault? : Finding → Option Failure
  | .host _ => none
  | .fault failure => some failure

/-- What a requester does about a finding. -/
def deeds (handsOn : Bool) : Finding → List Deed
  | .host name => if handsOn then [.put name, .produced, .log name] else [.log name]
  | .fault failure => [.erred, .report failure.report]

end Finding

namespace Deed

/-- The item that is put. -/
def put? : Deed → Option String
  | .put host => some host
  | _ => none

/-- The line that is written to a sink, by a worker with this log. -/
def lineTo (output sink : Sink) : Deed → Option String
  | .log line => if output = sink then some line else none
  | .report line => if .stderr = sink then some line else none
  | _ => none

end Deed

namespace Terms

variable (t : Terms)

/-- What a host name comes to: it must not be the sentinel, and it must fit the next queue. -/
def screen (host : String) : Finding :=
  if t.sentinel.marks host then .fault (Worker.reserved host)
  else
    match t.limit with
    | none => .host host
    | some max =>
      if host.utf8ByteSize ≤ max then .host host
      else .fault (Worker.refusal host (.itemTooLarge host.utf8ByteSize max))

/-- Can a host name be handed on? -/
def accepts (host : String) : Bool :=
  !t.sentinel.marks host && t.limit.all fun max => host.utf8ByteSize ≤ max

/-- What is found in the rest of a data file, from the given line on. A line that is no text is left
out; after any other failure nothing more can be read. -/
def findings (file : String) : Nat → List LineEvent → List Finding
  | _, [] => []
  | line, .line text :: rest =>
    ((DataFile.hostOfLine text).map t.screen).toList ++ findings file (line + 1) rest
  | line, .failed failure :: rest =>
    if failure.kind = .invalidData then
      .fault (.item (file ++ ":" ++ toString line) failure.message) ::
        findings file (line + 1) rest
    else [.fault (.io file failure)]
  | _, .panicked :: _ => []

/-- What is found in a data file. -/
def findingsIn (file : String) : List Finding :=
  match t.opening file with
  | .refused failure => [.fault (.io file failure)]
  | .opened events => t.findings file 1 events
  | .panicked => []

/-- The host names that a data file contributes. -/
def hostsIn (file : String) : List String :=
  (t.findingsIn file).filterMap Finding.host?

/-- The failures that a data file leads to. -/
def faultsIn (file : String) : List Failure :=
  (t.findingsIn file).filterMap Finding.fault?

/-- Is there no address for a host name? -/
def misses (host : String) : Bool :=
  !(t.lookup host matches .found _)

/-- What is logged as the address of a host name. -/
def addressOf (host : String) : String :=
  match t.lookup host with
  | .found address => address
  | _ => t.notResolved

/-- What a requester does about findings. -/
def deedsFor (findings : List Finding) : List Deed :=
  findings.flatMap (Finding.deeds t.limit.isSome)

/-- What a worker of a stage does for an item. -/
def deeds : Stage → String → List Deed
  | .requester, file => t.deedsFor (t.findingsIn file)
  | .resolver, host =>
    (if t.misses host then [.missed] else []) ++
      [.log (Worker.answerLine host (t.addressOf host))]

/-- The workers are told what the terms say, and the world keeps to it at all times. -/
structure Hold (told : Instructions) : Prop where
  sentinel : told.sentinel = t.sentinel
  notResolved : told.notResolved = t.notResolved
  opening : ∀ moment, told.environment.opening moment = t.opening
  lookup : ∀ moment, told.environment.lookup moment = t.lookup

/-- The sentinel is no host name. -/
theorem screen_of_marks {host : String} (hmarks : t.sentinel.marks host = true) :
    t.screen host = .fault (Worker.reserved host) := by
  rw [screen, if_pos hmarks]

/-- Without a next queue every other name will do. -/
theorem screen_of_limit_none {host : String} (hmarks : t.sentinel.marks host = false)
    (hlimit : t.limit = none) : t.screen host = .host host := by
  rw [screen, if_neg (by simp [hmarks]), hlimit]

/-- With a queue it has to fit. -/
theorem screen_of_le {host : String} {max : Nat} (hmarks : t.sentinel.marks host = false)
    (hlimit : t.limit = some max) (hle : host.utf8ByteSize ≤ max) : t.screen host = .host host := by
  rw [screen, if_neg (by simp [hmarks]), hlimit]
  exact if_pos hle

theorem screen_of_lt {host : String} {max : Nat} (hmarks : t.sentinel.marks host = false)
    (hlimit : t.limit = some max) (hlt : max < host.utf8ByteSize) :
    t.screen host = .fault (Worker.refusal host (.itemTooLarge host.utf8ByteSize max)) := by
  rw [screen, if_neg (by simp [hmarks]), hlimit]
  exact if_neg (by omega)

/-- What becomes of a host name is a matter of whether it can be handed on. -/
theorem host?_screen (host : String) :
    (t.screen host).host? = if t.accepts host then some host else none := by
  unfold screen accepts
  cases t.sentinel.marks host with
  | true => rfl
  | false =>
    cases t.limit with
    | none => rfl
    | some max => by_cases hle : host.utf8ByteSize ≤ max <;> simp [hle, Finding.host?]

/-- What is found in the rest of a file are the host names in its lines of text, up to the line at
which the reading ends. -/
theorem filterMap_findings (file : String) (line : Nat) (events : List LineEvent) :
    (t.findings file line events).filterMap Finding.host? =
      ((LineEvent.readable events).filterMap DataFile.hostOfLine).filter t.accepts := by
  induction line, events using findings.induct with
  | case1 => rfl
  | case2 line text rest ih =>
    -- a line of text: blank, screened out, or one more host name
    rw [findings, LineEvent.readable, List.filterMap_append, ih, List.filterMap_cons]
    cases DataFile.hostOfLine text with
    | none => rfl
    | some host => by_cases haccepts : t.accepts host <;> simp [host?_screen, haccepts]
  | case3 line failure rest hkind ih =>
    -- a line that is no text is a fault, and the reading goes on behind it
    rw [findings, LineEvent.readable, if_pos hkind, if_pos hkind, ← ih]
    rfl
  | case4 line failure rest hkind =>
    rw [findings, LineEvent.readable, if_neg hkind, if_neg hkind]
    rfl
  | case5 => rfl

/-- **What a data file contributes** are the trimmed lines of text in it that are not blank and can
be handed on, in order. -/
theorem hostsIn_opened {file : String} {events : List LineEvent}
    (hopening : t.opening file = .opened events) :
    t.hostsIn file =
      ((LineEvent.readable events).filterMap DataFile.hostOfLine).filter t.accepts := by
  rw [hostsIn, findingsIn, hopening]
  exact t.filterMap_findings file 1 events

/-- An address is logged. -/
theorem deeds_of_found {host address : String} (hlookup : t.lookup host = .found address) :
    t.deeds .resolver host = [.log (Worker.answerLine host address)] := by
  simp [deeds, misses, addressOf, hlookup]

/-- A lookup that fails is a miss, and logged as one. -/
theorem deeds_of_failed {host : String} {error : ResolveError}
    (hlookup : t.lookup host = .failed error) :
    t.deeds .resolver host = [.missed, .log (Worker.answerLine host t.notResolved)] := by
  simp [deeds, misses, addressOf, hlookup]

theorem deedsFor_cons (finding : Finding) (rest : List Finding) :
    t.deedsFor (finding :: rest) = finding.deeds t.limit.isSome ++ t.deedsFor rest :=
  List.flatMap_cons

/-! ## What the deeds come to

A list of deeds is read in several ways: what is put, what is logged, what is reported, and how much
of each is counted. For the requesters every reading goes finding by finding (`filterMap_requester`,
`count_requester`), so each of the lemmas below only says what one finding comes to. -/

/-- The line that a resolver logs for a host name. -/
def answer (host : String) : String :=
  Worker.answerLine host (t.addressOf host)

/-- The host names that the requesters hand on for some data files. -/
def handedOn (files : List String) : List String :=
  if t.limit.isSome then files.flatMap t.hostsIn else []

/-- In which order the files are read does not change what is handed on, only its order. -/
theorem handedOn_perm {files files' : List String} (h : files.Perm files') :
    (t.handedOn files).Perm (t.handedOn files') := by
  unfold handedOn
  split
  · exact h.flatMap_right _
  · exact .refl _

theorem filterMap_hostsIn (files : List String) :
    (files.flatMap t.findingsIn).filterMap Finding.host? = files.flatMap t.hostsIn :=
  List.filterMap_flatMap

theorem filterMap_faultsIn (files : List String) :
    (files.flatMap t.findingsIn).filterMap Finding.fault? = files.flatMap t.faultsIn :=
  List.filterMap_flatMap

/-- The deeds for several files are those for all that is found in them. -/
theorem flatMap_deeds_requester (files : List String) :
    files.flatMap (t.deeds .requester) = t.deedsFor (files.flatMap t.findingsIn) :=
  List.flatMap_assoc.symm

section Requester

variable (files : List String)

/-- A part of the deeds for data files, if it can be told finding by finding. -/
theorem filterMap_requester {α : Type} (f : Deed → Option α) (g : Finding → Option α)
    (hfinding : ∀ finding : Finding,
      (finding.deeds t.limit.isSome).filterMap f = (g finding).toList) :
    (files.flatMap (t.deeds .requester)).filterMap f =
      (files.flatMap t.findingsIn).filterMap g := by
  rw [flatMap_deeds_requester]
  induction files.flatMap t.findingsIn with
  | nil => rfl
  | cons finding rest ih =>
    rw [deedsFor_cons, List.filterMap_append, ih, hfinding, List.filterMap_cons]
    cases g finding <;> rfl

/-- The number of deeds of one kind, if it can be told finding by finding. -/
theorem count_requester {α : Type} (deed : Deed) (g : Finding → Option α)
    (hfinding : ∀ finding : Finding,
      (finding.deeds t.limit.isSome).count deed = (g finding).toList.length) :
    (files.flatMap (t.deeds .requester)).count deed =
      ((files.flatMap t.findingsIn).filterMap g).length := by
  rw [flatMap_deeds_requester]
  induction files.flatMap t.findingsIn with
  | nil => rfl
  | cons finding rest ih =>
    rw [deedsFor_cons, List.count_append, ih, hfinding, List.filterMap_cons]
    cases g finding <;> simp [Nat.add_comm]

/-- Each host name is handed on, if there is somebody to hand on to. -/
theorem filterMap_put_requester :
    (files.flatMap (t.deeds .requester)).filterMap Deed.put? = t.handedOn files := by
  unfold handedOn
  split
  · next hsome =>
    rw [t.filterMap_requester files Deed.put? Finding.host?, filterMap_hostsIn]
    intro finding
    cases finding <;> simp [Finding.deeds, Deed.put?, Finding.host?, hsome, List.filterMap_cons]
  · next hnone =>
    rw [t.filterMap_requester files Deed.put? fun _ => (none : Option String)]
    · simp
    · intro finding
      cases finding <;> simp [Finding.deeds, Deed.put?, hnone, List.filterMap_cons]

/-- Each host name is logged. -/
theorem filterMap_log_requester :
    (files.flatMap (t.deeds .requester)).filterMap (Deed.lineTo .requesterLog .requesterLog) =
      files.flatMap t.hostsIn := by
  rw [t.filterMap_requester files _ Finding.host?, filterMap_hostsIn]
  intro finding
  cases finding <;> cases t.limit.isSome <;>
    simp [Finding.deeds, Deed.lineTo, Finding.host?, List.filterMap_cons]

/-- Each failure is reported to the standard error. -/
theorem filterMap_report_requester :
    (files.flatMap (t.deeds .requester)).filterMap (Deed.lineTo .requesterLog .stderr) =
      (files.flatMap t.faultsIn).map Failure.report := by
  rw [t.filterMap_requester files _ fun finding => finding.fault?.map Failure.report,
    ← filterMap_faultsIn, List.map_filterMap]
  intro finding
  cases finding <;> cases t.limit.isSome <;>
    simp [Finding.deeds, Deed.lineTo, Finding.fault?, List.filterMap_cons]

/-- The other log hears nothing of it. -/
theorem filterMap_other_requester :
    (files.flatMap (t.deeds .requester)).filterMap (Deed.lineTo .requesterLog .resolverLog) =
      [] := by
  rw [t.filterMap_requester files _ fun _ => (none : Option String)]
  · simp
  · intro finding
    cases finding <;> cases t.limit.isSome <;>
      simp [Finding.deeds, Deed.lineTo, List.filterMap_cons]

/-- A host name counts when it was handed on. -/
theorem count_produced_requester :
    (files.flatMap (t.deeds .requester)).count .produced = (t.handedOn files).length := by
  unfold handedOn
  split
  · next hsome =>
    rw [t.count_requester files .produced Finding.host?, filterMap_hostsIn]
    intro finding
    cases finding <;> simp [Finding.deeds, Finding.host?, hsome]
  · next hnone =>
    rw [t.count_requester files .produced fun _ => (none : Option String)]
    · simp
    · intro finding
      cases finding <;> simp [Finding.deeds, hnone]

/-- Each failure counts once. -/
theorem count_erred_requester : (files.flatMap (t.deeds .requester)).count .erred =
    (files.flatMap t.faultsIn).length := by
  rw [t.count_requester files .erred Finding.fault?, filterMap_faultsIn]
  intro finding
  cases finding <;> cases t.limit.isSome <;> simp [Finding.deeds, Finding.fault?]

end Requester

section Resolver

variable (hosts : List String)

/-- A resolver puts nothing, and it writes to its log only. -/
theorem filterMap_resolver_eq_nil {α : Type} (f : Deed → Option α) (hmissed : f .missed = none)
    (hlog : ∀ line, f (.log line) = none) :
    (hosts.flatMap (t.deeds .resolver)).filterMap f = [] := by
  rw [List.filterMap_flatMap]
  refine List.flatMap_eq_nil_iff.mpr fun host _ => ?_
  simp only [deeds]
  cases t.misses host <;> simp [hmissed, hlog]

theorem filterMap_put_resolver : (hosts.flatMap (t.deeds .resolver)).filterMap Deed.put? = [] :=
  t.filterMap_resolver_eq_nil hosts Deed.put? rfl fun _ => rfl

/-- One line for each host name. -/
theorem filterMap_log_resolver :
    (hosts.flatMap (t.deeds .resolver)).filterMap (Deed.lineTo .resolverLog .resolverLog) =
      hosts.map t.answer := by
  induction hosts with
  | nil => rfl
  | cons host rest ih =>
    rw [List.flatMap_cons, List.filterMap_append, ih]
    simp only [deeds]
    cases t.misses host <;> simp [Deed.lineTo, answer, List.filterMap_cons]

theorem filterMap_other_resolver {sink : Sink} (hsink : sink ≠ .resolverLog) :
    (hosts.flatMap (t.deeds .resolver)).filterMap (Deed.lineTo .resolverLog sink) = [] :=
  t.filterMap_resolver_eq_nil hosts _ rfl fun _ => if_neg (Ne.symm hsink)

/-- A miss counts once. -/
theorem count_missed_resolver : (hosts.flatMap (t.deeds .resolver)).count .missed =
    hosts.countP t.misses := by
  induction hosts with
  | nil => rfl
  | cons host rest ih =>
    rw [List.flatMap_cons, List.count_append, ih, List.countP_cons]
    simp only [deeds]
    cases t.misses host <;> simp
    omega

theorem count_erred_resolver : (hosts.flatMap (t.deeds .resolver)).count .erred = 0 := by
  refine List.count_eq_zero.mpr fun hmem => ?_
  obtain ⟨host, -, hmem⟩ := List.mem_flatMap.mp hmem
  simp only [deeds] at hmem
  cases hmisses : t.misses host <;> simp [hmisses] at hmem

end Resolver

/-- No file contributes the sentinel. -/
theorem text_notMem_hostsIn (file : String) : t.sentinel.text ∉ t.hostsIn file := by
  intro hmem
  cases hopening : t.opening file with
  | opened events =>
    rw [t.hostsIn_opened hopening] at hmem
    have haccepts := (List.mem_filter.mp hmem).2
    simp [accepts, t.sentinel.marks_text] at haccepts
  | refused failure =>
    rw [hostsIn, findingsIn, hopening] at hmem
    exact List.not_mem_nil hmem
  | panicked =>
    rw [hostsIn, findingsIn, hopening] at hmem
    exact List.not_mem_nil hmem

/-- So no sentinel is among the names that are handed on. -/
theorem filter_handedOn (files : List String) :
    (t.handedOn files).filter (· ≠ t.sentinel.text) = t.handedOn files := by
  refine List.filter_eq_self.mpr fun host hmem => ?_
  have hne : host ≠ t.sentinel.text := by
    rintro rfl
    unfold handedOn at hmem
    split at hmem
    · obtain ⟨file, -, hhost⟩ := List.mem_flatMap.mp hmem
      exact t.text_notMem_hostsIn file hhost
    · exact List.not_mem_nil hmem
  simp [hne]

end Terms

end HostLookup
