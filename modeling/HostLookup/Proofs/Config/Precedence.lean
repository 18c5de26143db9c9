import HostLookup.Config.Load

/-!
# Which layer counts

Of all that the layers say of a key only the last word counts. So nobody may look at a value before
the layers have been put together: one that is of the wrong kind, or that no run could work with,
does no harm as long as a later layer replaces it, and two settings are held against each other only
when both are known.

* **`Layers.LastWord`**: the last word of the layers on a key, told without a search.
* **`Layers.MadeInto`**: the settings that are made of the last words.
* **`Layers.Objection`**: what may be held against layers. Every objection is about a layer that
  cannot be read, about a last word, about a key without one, or about the settings made of them.
* **`Layers.settings_congr`**: nothing but the last words and the faults of the layers counts.
* **`Settings.Loaded`**: the layers of a run, and the failure that comes before all of them.
* **`Settings.made_of_last_words`**: layers come to the settings that are made of their last words,
  if there are such settings and they pass the check.
-/

namespace HostLookup

/-! ## What layers say

The layers are searched from the last to the first, and a layer from its last entry to its first.
Read as one list of words this is a search from behind, and what it finds is the last word on the
key. -/

namespace Layer

/-- Can the layer be read? -/
def IsReadable (layer : Layer) : Prop :=
  ∃ entries, layer.content = .ok entries

/-- All that a layer says, each key with its value. A layer that cannot be read says nothing. -/
def words (layer : Layer) : List (String × Value) :=
  match layer.content with
  | .ok entries => entries
  | .error _ => []

/-- Of several entries for a key in one layer the last is found. -/
theorem lookup_eq (layer : Layer) (key : String) :
    layer.lookup key = layer.words.reverse.lookup key := by
  unfold lookup words
  cases layer.content <;> rfl

/-- A layer has a fault if it cannot be read. -/
theorem fault?_eq_none_iff (layer : Layer) : layer.fault? = none ↔ layer.IsReadable := by
  unfold fault? IsReadable
  cases layer.content <;> simp

end Layer

namespace Layers

variable {layers later : Layers} {layer : Layer} {key : String} {value : Value}

/-- All that the layers say, in the order in which it counts more and more. -/
def words (layers : Layers) : List (String × Value) :=
  layers.flatMap Layer.words

/-- Can all layers be read? -/
def IsReadable (layers : Layers) : Prop :=
  ∀ layer ∈ layers, layer.IsReadable

/-- Does one of the layers set the key? -/
def Defines (layers : Layers) (key : String) : Prop :=
  ∃ layer ∈ layers, ∃ value, (key, value) ∈ layer.words

/-- The last word of the layers on a key: after it, the key is not mentioned any more. -/
def LastWord (layers : Layers) (key : String) (value : Value) : Prop :=
  ∃ before after, layers.words = before ++ (key, value) :: after ∧ ∀ word ∈ after, word.1 ≠ key

/-- A later layer goes before an earlier one. -/
theorem lookup_cons (layer : Layer) (later : Layers) (key : String) :
    lookup (layer :: later) key =
      (lookup later key).or ((layer.lookup key).map fun value => (layer.source, value)) := by
  rw [lookup, lookup, List.reverse_cons, List.findSome?_append, List.findSome?_singleton]

/-- Of several layers the last that sets the key is found, with its last word. -/
theorem map_snd_lookup (layers : Layers) (key : String) :
    (layers.lookup key).map Prod.snd = layers.words.reverse.lookup key := by
  -- induction on the layers: the later ones are searched first, as their words stand behind
  induction layers with
  | nil => rfl
  | cons layer later ih =>
    have hwords : words (layer :: later) = layer.words ++ words later := List.flatMap_cons
    rw [lookup_cons, hwords, List.reverse_append, List.lookup_append, ← ih, ← layer.lookup_eq]
    cases lookup later key with
    | some => rfl
    | none => cases layer.lookup key <;> rfl

/-- What is found first from behind has nothing on its key behind it. -/
theorem lookup_reverse_eq_some_iff {words : List (String × Value)} :
    words.reverse.lookup key = some value ↔
      ∃ before after, words = before ++ (key, value) :: after ∧ ∀ word ∈ after, word.1 ≠ key := by
  rw [List.lookup_eq_some_iff]
  -- both sides split the words at the same place, once from behind and once from the front
  constructor
  · rintro ⟨after, before, heq, hafter⟩
    refine ⟨before.reverse, after.reverse, ?_, fun word hword => ?_⟩
    · rw [← List.reverse_reverse words, heq]
      simp
    · have hne := hafter word (List.mem_reverse.mp hword)
      exact fun h => by simp [h] at hne
  · rintro ⟨before, after, rfl, hafter⟩
    refine ⟨after.reverse, before.reverse, by simp, fun word hword => ?_⟩
    have hne := hafter word (List.mem_reverse.mp hword)
    simpa [bne_iff_ne] using Ne.symm hne

/-- **What is looked up is the last word.** -/
theorem lastWord_iff :
    layers.LastWord key value ↔ ∃ source, layers.lookup key = some (source, value) := by
  rw [LastWord, ← lookup_reverse_eq_some_iff, ← map_snd_lookup, Option.map_eq_some_iff]
  constructor
  · rintro ⟨⟨source, found⟩, hlookup, rfl⟩
    exact ⟨source, hlookup⟩
  · rintro ⟨source, hlookup⟩
    exact ⟨_, hlookup, rfl⟩

/-- There is one last word on a key. -/
theorem LastWord.unique {other : Value} (h : layers.LastWord key value)
    (hother : layers.LastWord key other) : value = other := by
  obtain ⟨source, hlookup⟩ := lastWord_iff.mp h
  obtain ⟨source', hlookup'⟩ := lastWord_iff.mp hother
  rw [hlookup] at hlookup'
  exact (Prod.mk.inj (Option.some.inj hlookup')).2

/-- A key that is set is found, and a key that is found is set. -/
theorem defines_iff : layers.Defines key ↔ (layers.lookup key).isSome = true := by
  rw [← Option.isSome_map (f := Prod.snd), map_snd_lookup, List.lookup_isSome_iff]
  constructor
  · rintro ⟨layer, hlayer, value, hword⟩
    exact ⟨_, List.mem_reverse.mpr (List.mem_flatMap.mpr ⟨layer, hlayer, hword⟩), by simp⟩
  · rintro ⟨⟨other, value⟩, hword, heq⟩
    obtain ⟨layer, hlayer, hword⟩ := List.mem_flatMap.mp (List.mem_reverse.mp hword)
    exact ⟨layer, hlayer, value, eq_of_beq heq ▸ hword⟩

/-- A key that is set has a last word. -/
theorem exists_lastWord_iff : (∃ value, layers.LastWord key value) ↔ layers.Defines key := by
  rw [defines_iff, Option.isSome_iff_exists]
  constructor
  · rintro ⟨value, hword⟩
    obtain ⟨source, hlookup⟩ := lastWord_iff.mp hword
    exact ⟨_, hlookup⟩
  · rintro ⟨⟨source, value⟩, hlookup⟩
    exact ⟨value, lastWord_iff.mpr ⟨source, hlookup⟩⟩

end Layers

/-! ## What settings take over

Nine keys are of three kinds. What differs from key to key is how a value is read and where it is
put, so one lemma speaks of all of them (`takesOver_map`). -/

/-- The kinds of settings. -/
inductive SettingKind where
  | size
  | text
  | boolean
  deriving DecidableEq, Repr

/-- The kind of a setting. -/
def SettingKey.kind : SettingKey → SettingKind
  | .queueCapacity | .maxNameLength | .maxFileNameLength | .maxRequesterThreads
  | .maxResolverThreads | .maxInputFiles => .size
  | .sentinel | .notResolved => .text
  | .preferIpv4 => .boolean

namespace Value

/-- Is a value that was read of the kind that a setting wants? A size is a number that is not
negative, whether it was read as one with a sign or without. -/
inductive HasKind : Value → SettingKind → Prop where
  | unsigned (n : Nat) : HasKind (.unsigned n) .size
  | signed (n : Nat) : HasKind (.signed n) .size
  | text (text : String) : HasKind (.text text) .text
  | boolean (b : Bool) : HasKind (.boolean b) .boolean

/-- What a value that was read comes to as the value of a setting. -/
inductive Becomes : Value → Value → Prop where
  | unsigned (n : Nat) : Becomes (.unsigned n) (.unsigned n)
  | signed (n : Nat) : Becomes (.signed n) (.unsigned n)
  | text (text : String) : Becomes (.text text) (.text text)
  | boolean (b : Bool) : Becomes (.boolean b) (.boolean b)

/-- A value comes to one thing only. -/
theorem Becomes.unique {read value other : Value} (h : read.Becomes value)
    (hother : read.Becomes other) : value = other := by
  cases h with
  | unsigned | text | boolean =>
    cases hother
    rfl
  | signed n =>
    generalize hread : Value.signed n = read at hother
    cases hother with
    | signed m =>
      have heq : (n : Int) = m := Value.signed.inj hread
      rw [show n = m by omega]
    | _ => contradiction

/-- A size is read off a number that is not negative, and off nothing else. -/
theorem size?_cases (value : Value) :
    (∃ n, value.size? = .ok n ∧ value.HasKind .size ∧ value.Becomes (.unsigned n)) ∨
      (∃ reason, value.size? = .error reason) ∧ ¬ value.HasKind .size := by
  cases value with
  | unsigned n => exact Or.inl ⟨n, rfl, .unsigned n, .unsigned n⟩
  | signed i =>
    by_cases hpos : 0 ≤ i
    · obtain ⟨n, rfl⟩ := Int.eq_ofNat_of_zero_le hpos
      exact Or.inl ⟨n, by simp [size?], .signed n, .signed n⟩
    · refine Or.inr ⟨⟨_, if_neg hpos⟩, fun hkind => ?_⟩
      cases hkind with
      | signed n => omega
  | _ => exact Or.inr ⟨⟨_, rfl⟩, nofun⟩

/-- A text is read off a text. -/
theorem text?_cases (value : Value) :
    (∃ text, value.text? = .ok text ∧ value.HasKind .text ∧ value.Becomes (.text text)) ∨
      (∃ reason, value.text? = .error reason) ∧ ¬ value.HasKind .text := by
  cases value with
  | text text => exact Or.inl ⟨text, rfl, .text text, .text text⟩
  | _ => exact Or.inr ⟨⟨_, rfl⟩, nofun⟩

/-- A flag is read off a flag. -/
theorem boolean?_cases (value : Value) :
    (∃ b, value.boolean? = .ok b ∧ value.HasKind .boolean ∧ value.Becomes (.boolean b)) ∨
      (∃ reason, value.boolean? = .error reason) ∧ ¬ value.HasKind .boolean := by
  cases value with
  | boolean b => exact Or.inl ⟨b, rfl, .boolean b, .boolean b⟩
  | _ => exact Or.inr ⟨⟨_, rfl⟩, nofun⟩

end Value

namespace Settings

/-- Settings are told apart by their values. -/
theorem ext_value {s s' : Settings} (h : ∀ key, s.value key = s'.value key) : s = s' := by
  have hsize : ∀ {n m : Nat}, Value.unsigned n = .unsigned m → n = m := fun heq => by cases heq; rfl
  have htext : ∀ {a b : String}, Value.text a = .text b → a = b := fun heq => by cases heq; rfl
  have hboolean : ∀ {a b : Bool}, Value.boolean a = .boolean b → a = b := fun heq => by
    cases heq; rfl
  cases s
  cases s'
  congr
  · exact hsize (h .queueCapacity)
  · exact hsize (h .maxNameLength)
  · exact hsize (h .maxFileNameLength)
  · exact hsize (h .maxRequesterThreads)
  · exact hsize (h .maxResolverThreads)
  · exact hsize (h .maxInputFiles)
  · exact htext (h .sentinel)
  · exact htext (h .notResolved)
  · exact hboolean (h .preferIpv4)

/-- Whatever has become the value of a setting is of the kind of the setting. -/
theorem hasKind_of_becomes {s : Settings} {value : Value} {key : SettingKey}
    (h : value.Becomes (s.value key)) : value.HasKind key.kind := by
  cases key <;> cases h <;> constructor

/-- Settings that differ from others at most in one key, which has what the value comes to. -/
structure Sets (s : Settings) (value : Value) (key : SettingKey) (s' : Settings) : Prop where
  becomes : value.Becomes (s'.value key)
  frame : ∀ other, other ≠ key → s'.value other = s.value other

/-- What may come of a value for a key: one of the right kind is taken over and nothing else
changes, and any other value is refused. -/
def TakesOver (s : Settings) (value : Value) (key : SettingKey) (result : Except String Settings) :
    Prop :=
  (∃ s', result = .ok s' ∧ value.HasKind key.kind ∧ s.Sets value key s') ∨
    (∃ reason, result = .error reason) ∧ ¬ value.HasKind key.kind

/-- The keys only differ in how they read a value and in where they put it. -/
theorem takesOver_map {α : Type} {s : Settings} {value : Value} {key : SettingKey}
    {read : Except String α} {wrap : α → Value} {put : α → Settings}
    (hread : (∃ a, read = .ok a ∧ value.HasKind key.kind ∧ value.Becomes (wrap a)) ∨
      (∃ reason, read = .error reason) ∧ ¬ value.HasKind key.kind)
    (hput : ∀ a, (put a).value key = wrap a)
    (hframe : ∀ a other, other ≠ key → (put a).value other = s.value other) :
    s.TakesOver value key (read.map put) := by
  rcases hread with ⟨a, rfl, hkind, hbecomes⟩ | ⟨⟨reason, rfl⟩, hkind⟩
  · refine Or.inl ⟨put a, rfl, hkind, ?_, hframe a⟩
    rw [hput]
    exact hbecomes
  · exact Or.inr ⟨⟨reason, rfl⟩, hkind⟩

/-- **What comes of setting a key.** -/
theorem takesOver_set (s : Settings) (value : Value) (key : SettingKey) :
    s.TakesOver value key (s.set value key) := by
  cases key with
  | sentinel | notResolved =>
    refine takesOver_map value.text?_cases (fun _ => rfl) fun _ other hne => ?_
    cases other <;> first | rfl | contradiction
  | preferIpv4 =>
    refine takesOver_map value.boolean?_cases (fun _ => rfl) fun _ other hne => ?_
    cases other <;> first | rfl | contradiction
  | _ =>
    refine takesOver_map value.size?_cases (fun _ => rfl) fun _ other hne => ?_
    cases other <;> first | rfl | contradiction

end Settings

namespace Layers

variable {layers : Layers} {s s' : Settings} {key : SettingKey} {value : Value} {failure : Failure}

/-- Do the settings have, for a key, what the last word on it comes to? -/
def Follows (layers : Layers) (s : Settings) (key : SettingKey) : Prop :=
  ∀ value, layers.LastWord key.name value → value.Becomes (s.value key)

/-- Is the last word on a key of the right kind? -/
def FitsKind (layers : Layers) (key : SettingKey) : Prop :=
  ∀ value, layers.LastWord key.name value → value.HasKind key.kind

/-- The settings that are made of the last words of the layers. -/
def MadeInto (layers : Layers) (s : Settings) : Prop :=
  ∀ key : SettingKey, ∃ value, layers.LastWord key.name value ∧ value.Becomes (s.value key)

/-- What may be held against layers. -/
inductive Objection (layers : Layers) : Failure → Prop where
  | unreadable {layer : Layer} {reason : String} (hlayer : layer ∈ layers)
      (hunreadable : ¬ layer.IsReadable) : Objection layers (.config "config" reason)
  | mistyped {key : SettingKey} {value : Value} {reason : String}
      (hword : layers.LastWord key.name value) (hkind : ¬ value.HasKind key.kind) :
      Objection layers (.config key.name reason)
  | missing {key : SettingKey} (hmissing : ¬ layers.Defines key.name) :
      Objection layers (.config "config" ("missing field `" ++ key.name ++ "`"))
  | unusable {s : Settings} {failure : Failure} (hmade : layers.MadeInto s)
      (hcheck : s.check = .error failure) : Objection layers failure

/-- The last words make one set of settings. -/
theorem MadeInto.unique (h : layers.MadeInto s) (h' : layers.MadeInto s') : s = s' := by
  refine Settings.ext_value fun key => ?_
  obtain ⟨value, hword, hbecomes⟩ := h key
  obtain ⟨value', hword', hbecomes'⟩ := h' key
  obtain rfl := hword.unique hword'
  exact hbecomes.unique hbecomes'

/-- Settings that are made of last words need a last word on every key. -/
theorem MadeInto.defines (h : layers.MadeInto s) (key : SettingKey) : layers.Defines key.name := by
  obtain ⟨value, hword, -⟩ := h key
  exact exists_lastWord_iff.mp ⟨value, hword⟩

/-- And each of these words must be of the right kind. -/
theorem MadeInto.fitsKind (h : layers.MadeInto s) (key : SettingKey) : layers.FitsKind key := by
  intro value hword
  obtain ⟨other, hother, hbecomes⟩ := h key
  obtain rfl := hword.unique hother
  exact Settings.hasKind_of_becomes hbecomes

/-! ## From the layers to the settings

The keys are taken over one after the other, and each of them changes nothing but itself. So the
result of the loop can be told key by key, and the first key whose last word is of the wrong kind is
the one that is reported. -/

/-- One key is taken over from its last word, or that word is of the wrong kind. -/
theorem takeOver_cases (layers : Layers) (s : Settings) (key : SettingKey) :
    (∃ s', layers.takeOver s key = .ok s' ∧ layers.FitsKind key ∧ layers.Follows s' key ∧
        ∀ other, other ≠ key → s'.value other = s.value other) ∨
      ∃ value reason, layers.takeOver s key = .error (.config key.name reason) ∧
        layers.LastWord key.name value ∧ ¬ value.HasKind key.kind := by
  unfold takeOver
  cases hlookup : layers.lookup key.name with
  | none =>
    -- no layer says anything about the key, so it stays as it was
    have hsilent : ∀ value, ¬ layers.LastWord key.name value := by
      intro value hword
      obtain ⟨source, hfound⟩ := lastWord_iff.mp hword
      rw [hlookup] at hfound
      contradiction
    exact Or.inl ⟨s, rfl, fun value hword => absurd hword (hsilent value),
      fun value hword => absurd hword (hsilent value), fun _ _ => rfl⟩
  | some found =>
    obtain ⟨source, value⟩ := found
    have hword : layers.LastWord key.name value := lastWord_iff.mpr ⟨source, hlookup⟩
    rcases s.takesOver_set value key with ⟨s', hset, hkind, hsets⟩ | ⟨⟨reason, hset⟩, hkind⟩
    · refine Or.inl ⟨s', ?_, ?_, ?_, hsets.frame⟩
      · show (s.set value key).mapError _ = _
        rw [hset]
        rfl
      · intro other hother
        exact hother.unique hword ▸ hkind
      · intro other hother
        exact hother.unique hword ▸ hsets.becomes
    · refine Or.inr ⟨value, reason ++ " for key " ++ source.keyText key.name ++ source.place, ?_,
        hword, hkind⟩
      show (s.set value key).mapError _ = _
      rw [hset]
      rfl

/-- Several keys are taken over one after the other. What a key has got it keeps, because no later
one writes to it. -/
theorem foldlM_takeOver_cases (layers : Layers) (keys : List SettingKey) (s : Settings) :
    (∃ s', keys.foldlM (takeOver layers) s = .ok s' ∧
        (∀ key ∈ keys, layers.FitsKind key ∧ layers.Follows s' key) ∧
        ∀ other, other ∉ keys → s'.value other = s.value other) ∨
      ∃ key ∈ keys, ∃ value reason,
        keys.foldlM (takeOver layers) s = .error (.config key.name reason) ∧
        layers.LastWord key.name value ∧ ¬ value.HasKind key.kind := by
  induction keys generalizing s with
  | nil => exact Or.inl ⟨s, rfl, nofun, fun _ _ => rfl⟩
  | cons key keys ih =>
    rw [List.foldlM_cons]
    rcases layers.takeOver_cases s key with
      ⟨mid, hmid, hfits, hfollows, hframe⟩ | ⟨value, reason, hmid, hword⟩
    · rw [hmid]
      rcases ih mid with ⟨s', hrest, hkeys, hothers⟩ | ⟨later, hlater, value, reason, hrest, hword⟩
      · refine Or.inl ⟨s', hrest, fun other hother => ?_, fun other hother => ?_⟩
        · rcases List.mem_cons.mp hother with rfl | hmem
          · refine ⟨hfits, fun value hword => ?_⟩
            -- the same key may stand in the list again, and then it gets the same value
            by_cases hagain : other ∈ keys
            · exact (hkeys other hagain).2 value hword
            · rw [hothers other hagain]
              exact hfollows value hword
          · exact hkeys other hmem
        · have hne : other ≠ key := fun heq => hother (heq ▸ List.mem_cons_self)
          have hnot : other ∉ keys := fun hmem => hother (List.mem_cons_of_mem _ hmem)
          exact (hothers other hnot).trans (hframe other hne)
      · exact Or.inr ⟨later, List.mem_cons_of_mem _ hlater, value, reason, hrest, hword⟩
    · rw [hmid]
      exact Or.inr ⟨key, List.mem_cons_self, value, reason, rfl, hword⟩

/-- All keys are set, or one that is not is named. -/
theorem forM_require_cases (layers : Layers) (keys : List SettingKey) :
    (keys.forM (require layers) = .ok () ∧ ∀ key ∈ keys, layers.Defines key.name) ∨
      ∃ key ∈ keys, keys.forM (require layers) =
          .error (.config "config" ("missing field `" ++ key.name ++ "`")) ∧
        ¬ layers.Defines key.name := by
  induction keys with
  | nil => exact Or.inl ⟨rfl, nofun⟩
  | cons key keys ih =>
    rw [List.forM_eq_forM, List.forM_cons]
    -- the first key without a value is the one that is named
    by_cases hset : (layers.lookup key.name).isSome = true
    · have hrequire : layers.require key = .ok () := if_pos hset
      rw [hrequire]
      rcases ih with ⟨hrest, hkeys⟩ | ⟨other, hmem, hrest, hmissing⟩
      · refine Or.inl ⟨hrest, fun other hother => ?_⟩
        rcases List.mem_cons.mp hother with rfl | hmem
        · exact defines_iff.mpr hset
        · exact hkeys other hmem
      · exact Or.inr ⟨other, List.mem_cons_of_mem _ hmem, hrest, hmissing⟩
    · have hrequire : layers.require key = .error _ := if_neg hset
      rw [hrequire]
      exact Or.inr ⟨key, List.mem_cons_self, rfl, fun hdefines => hset (defines_iff.mp hdefines)⟩

/-- All layers can be read, or the fault of one that cannot be read is found. -/
theorem fault?_cases (layers : Layers) :
    (layers.fault? = none ∧ layers.IsReadable) ∨
      ∃ fault, layers.fault? = some fault ∧ ∃ layer ∈ layers, ¬ layer.IsReadable := by
  unfold fault?
  split
  · next hfaults =>
    have hnone := List.filterMap_eq_nil_iff.mp hfaults
    exact Or.inl ⟨rfl, fun layer hlayer => layer.fault?_eq_none_iff.mp (hnone layer hlayer)⟩
  · next hfaults =>
    -- whichever fault is reported, it is that of a layer
    obtain ⟨fault, hfault⟩ := List.exists_mem_of_ne_nil _ hfaults
    obtain ⟨layer, hlayer, hsome⟩ := List.mem_filterMap.mp hfault
    refine Or.inr ⟨_, rfl, layer, hlayer, fun hreadable => ?_⟩
    rw [layer.fault?_eq_none_iff.mpr hreadable] at hsome
    contradiction

/-- The layers come to settings that are made of their last words, or something is held against
them. -/
theorem merge_cases (layers : Layers) :
    (∃ s, layers.merge = .ok s ∧ layers.IsReadable ∧ layers.MadeInto s) ∨
      ∃ failure, layers.merge = .error failure ∧ layers.Objection failure := by
  unfold merge
  rcases layers.fault?_cases with ⟨hfault, hreadable⟩ | ⟨fault, hfault, layer, hlayer, hunreadable⟩
  · rw [hfault]
    rcases layers.foldlM_takeOver_cases SettingKey.alphabetical {} with
      ⟨s, hfold, hkeys, -⟩ | ⟨key, -, value, reason, hfold, hword, hkind⟩
    · rcases layers.forM_require_cases SettingKey.all with
        ⟨hrequire, hdefines⟩ | ⟨key, -, hrequire, hmissing⟩
      · refine Or.inl ⟨s, ?_, hreadable, fun key => ?_⟩
        · simp only [hfold, hrequire, bind, Except.bind]
          rfl
        · obtain ⟨hall, halphabetical⟩ := key.mem_all
          obtain ⟨value, hword⟩ := exists_lastWord_iff.mpr (hdefines key hall)
          exact ⟨value, hword, (hkeys key halphabetical).2 value hword⟩
      · refine Or.inr ⟨_, ?_, .missing hmissing⟩
        simp only [hfold, hrequire, bind, Except.bind]
    · refine Or.inr ⟨.config key.name reason, ?_, .mistyped hword hkind⟩
      simp only [hfold, bind, Except.bind]
  · rw [hfault]
    exact Or.inr ⟨_, rfl, .unreadable hlayer hunreadable⟩

theorem settings_cases (layers : Layers) :
    (∃ s, layers.settings = .ok s ∧ layers.IsReadable ∧ layers.MadeInto s ∧ s.check = .ok ()) ∨
      ∃ failure, layers.settings = .error failure ∧ layers.Objection failure := by
  unfold settings
  rcases layers.merge_cases with ⟨s, hmerge, hreadable, hmade⟩ | ⟨failure, hmerge, hobjection⟩
  · cases hcheck : s.check with
    | ok =>
      refine Or.inl ⟨s, ?_, hreadable, hmade, hcheck⟩
      simp only [hmerge, hcheck, bind, Except.bind]
      rfl
    | error failure =>
      refine Or.inr ⟨failure, ?_, .unusable hmade hcheck⟩
      simp only [hmerge, hcheck, bind, Except.bind]
  · refine Or.inr ⟨failure, ?_, hobjection⟩
    simp only [hmerge, bind, Except.bind]

/-- What can be read, makes settings and passes the check leaves nothing to object to. -/
theorem Objection.elim (h : layers.Objection failure) (hreadable : layers.IsReadable)
    (hmade : layers.MadeInto s) (hcheck : s.check = .ok ()) : False := by
  cases h with
  | unreadable hlayer hunreadable => exact hunreadable (hreadable _ hlayer)
  | @mistyped key value reason hword hkind => exact hkind (hmade.fitsKind key value hword)
  | @missing key hmissing => exact hmissing (hmade.defines key)
  | unusable hmade' hcheck' =>
    rw [hmade'.unique hmade, hcheck] at hcheck'
    contradiction

/-- What layers come to, told by their last words alone. -/
structure Judged (layers : Layers) : Prop where
  settings_eq_ok_iff : ∀ s, layers.settings = .ok s ↔
    layers.IsReadable ∧ (∀ key : SettingKey, layers.Defines key.name) ∧
      (∀ key, layers.FitsKind key) ∧ layers.MadeInto s ∧ s.check = .ok ()
  /-- If every key is set, and to a value of the right kind, there are settings to be checked. -/
  exists_madeInto : (∀ key : SettingKey, layers.Defines key.name) →
    (∀ key, layers.FitsKind key) → ∃ s, layers.MadeInto s
  objection : ∀ failure, layers.settings = .error failure → layers.Objection failure

/-- **What layers come to**, in both directions. -/
theorem judged (layers : Layers) : layers.Judged where
  settings_eq_ok_iff s := by
    rcases layers.settings_cases with ⟨found, hfound, hreadable, hmade, hcheck⟩ |
      ⟨_, hfound, hobjects⟩
    · rw [hfound, Except.ok.injEq]
      constructor
      · rintro rfl
        exact ⟨hreadable, hmade.defines, hmade.fitsKind, hmade, hcheck⟩
      · rintro ⟨-, -, -, hmade', -⟩
        exact hmade.unique hmade'
    · rw [hfound]
      refine iff_of_false nofun ?_
      rintro ⟨hreadable, -, -, hmade, hcheck⟩
      exact hobjects.elim hreadable hmade hcheck
  exists_madeInto hdefines hfits := by
    rcases layers.foldlM_takeOver_cases SettingKey.alphabetical {} with
      ⟨s, -, hkeys, -⟩ | ⟨key, -, value, -, -, hword, hkind⟩
    · refine ⟨s, fun key => ?_⟩
      obtain ⟨value, hword⟩ := exists_lastWord_iff.mpr (hdefines key)
      exact ⟨value, hword, (hkeys key key.mem_all.2).2 value hword⟩
    · exact absurd (hfits key value hword) hkind
  objection failure hfailure := by
    rcases layers.settings_cases with ⟨s, hs, -⟩ | ⟨other, hother, hobjection⟩
    · rw [hs] at hfailure
      contradiction
    · rw [hother] at hfailure
      exact Except.error.inj hfailure ▸ hobjection

/-! ## What does not count

Putting layers together uses them in two ways only: their faults, and what is looked up in them. Two
lists of layers that agree in both come to the same settings, whatever else they say. -/

/-- The later ones of two lists of layers go first. -/
theorem lookup_append (earlier later : Layers) (key : String) :
    lookup (earlier ++ later) key = (lookup later key).or (lookup earlier key) := by
  rw [lookup, List.reverse_append, List.findSome?_append]
  rfl

/-- **Nothing but the faults and what is looked up counts.** -/
theorem settings_congr {layers others : Layers} (hfault : layers.fault? = others.fault?)
    (hlookup : ∀ key, layers.lookup key = others.lookup key) :
    layers.settings = others.settings := by
  have htakeOver : takeOver layers = takeOver others := by
    funext s key
    rw [takeOver, takeOver, hlookup]
  have hrequire : require layers = require others := by
    funext key
    rw [require, require, hlookup]
  rw [settings, settings, merge, merge, hfault, htakeOver, hrequire]

/-- A word is passed over in the search for another key, and for its own key if that is found behind
it. -/
theorem lookup_reverse_of_overruled {front back : List (String × Value)} {key other : String}
    {value : Value} (hbehind : other = key → ∃ word ∈ back, word.1 = key) :
    (front ++ (key, value) :: back).reverse.lookup other =
      (front ++ back).reverse.lookup other := by
  rw [List.reverse_append, List.reverse_cons, List.reverse_append, List.append_assoc,
    List.lookup_append, List.lookup_append, List.lookup_append]
  by_cases heq : other = key
  · subst heq
    obtain ⟨word, hword, hkey⟩ := hbehind rfl
    have hfound : (back.reverse.lookup other).isSome = true :=
      List.lookup_isSome_iff.mpr ⟨word, List.mem_reverse.mpr hword, by simp [hkey]⟩
    obtain ⟨last, hlast⟩ := Option.isSome_iff_exists.mp hfound
    rw [hlast]
    rfl
  · have hpassed : List.lookup other [(key, value)] = none := by
      refine List.lookup_eq_none_iff.mpr fun word hword => ?_
      rw [List.mem_singleton.mp hword]
      exact bne_iff_ne.mpr heq
    rw [hpassed, Option.none_or]

/-- A word that is not the last one on its key may as well be left out. -/
theorem settings_of_overruled {earlier later : Layers} {source : LayerSource}
    {front back : List (String × Value)} {key : String} {value : Value}
    (hlater : ∃ word ∈ back ++ later.words, word.1 = key) :
    settings (earlier ++ { source := source, content := .ok (front ++ (key, value) :: back) } ::
        later) =
      settings (earlier ++ { source := source, content := .ok (front ++ back) } :: later) := by
  refine settings_congr ?_ fun other => ?_
  · rw [fault?, fault?, List.filterMap_append, List.filterMap_append]
    rfl
  · rw [lookup_append, lookup_append, lookup_cons, lookup_cons]
    cases hrest : lookup later other with
    | some => rfl
    | none =>
      -- the later layers do not set this key, so it is in the same layer that the word is overruled
      have hbehind : other = key → ∃ word ∈ back, word.1 = key := by
        intro heq
        obtain ⟨word, hword, hkey⟩ := hlater
        rcases List.mem_append.mp hword with hback | hwords
        · exact ⟨word, hback, hkey⟩
        · obtain ⟨layer, hlayer, hword⟩ := List.mem_flatMap.mp hwords
          have hdefines : Defines later other := ⟨layer, hlayer, word.2, by rwa [heq, ← hkey]⟩
          rw [defines_iff, hrest] at hdefines
          contradiction
      have hsame : (front ++ (key, value) :: back).reverse.lookup other =
          (front ++ back).reverse.lookup other := lookup_reverse_of_overruled hbehind
      rw [Layer.lookup_eq, Layer.lookup_eq]
      exact congrArg (fun found => (Option.or none (Option.map _ found)).or _) hsame

end Layers

/-! ## The layers of a run

Both files are looked for from the working directory upwards, and the nearest counts. The search is
an induction on the number of directories that are left. -/

/-- A regular file is what can be read as one. -/
theorem FileTree.isFile_iff {tree : FileTree} {path : String} :
    tree.isFile path = true ↔ ∃ bytes, tree.get path = .ok (.file bytes) := by
  unfold isFile
  split
  · next bytes hfile => exact iff_of_true rfl ⟨bytes, hfile⟩
  · next hother => exact iff_of_false nofun fun ⟨bytes, hfile⟩ => hother bytes hfile

namespace Settings

/-- The layer of the nearest file at the end of a path, on the way up from the working directory, if
there is a file. -/
inductive Nearest (tree : FileTree) (path : String) : Layers → Prop where
  | found {depth : Nat} {bytes : Bytes} (hdepth : depth ≤ tree.here.length)
      (hfile : tree.get (FileTree.behind (tree.here.take depth) path) = .ok (.file bytes))
      (hnearer : ∀ other, depth < other → other ≤ tree.here.length →
        tree.isFile (FileTree.behind (tree.here.take other) path) = false) :
      Nearest tree path
        [.ofBytes (.file (shownPath tree.here (FileTree.behind (tree.here.take depth) path))) bytes]
  | nowhere (hnone : ∀ depth, depth ≤ tree.here.length →
        tree.isFile (FileTree.behind (tree.here.take depth) path) = false) :
      Nearest tree path []

/-- The search finds the deepest directory on the way that has the file, or there is none. -/
theorem nearest?_cases (tree : FileTree) (path : String) (room : Nat) :
    (∃ depth bytes, nearest? tree path room =
          some (FileTree.behind (tree.here.take depth) path, bytes) ∧ depth < room ∧
        tree.get (FileTree.behind (tree.here.take depth) path) = .ok (.file bytes) ∧
        ∀ other, depth < other → other < room →
          tree.isFile (FileTree.behind (tree.here.take other) path) = false) ∨
      nearest? tree path room = none ∧
        ∀ depth, depth < room →
          tree.isFile (FileTree.behind (tree.here.take depth) path) = false := by
  -- induction on how many directories are left to look into, the deepest first
  induction room with
  | zero => exact Or.inr ⟨rfl, nofun⟩
  | succ room ih =>
    cases hhere : tree.isFile (FileTree.behind (tree.here.take room) path) with
    | true =>
      obtain ⟨bytes, hfile⟩ := FileTree.isFile_iff.mp hhere
      have hstep : nearest? tree path (room + 1) =
          some (FileTree.behind (tree.here.take room) path, bytes) := by
        simp only [nearest?, hfile]
      refine Or.inl ⟨room, bytes, hstep, Nat.lt_succ_self room, hfile, fun other hlt hother => ?_⟩
      omega
    | false =>
      have hstep : nearest? tree path (room + 1) = nearest? tree path room := by
        simp only [nearest?]
        split
        · next bytes hfile =>
          rw [FileTree.isFile_iff.mpr ⟨bytes, hfile⟩] at hhere
          contradiction
        · rfl
      have hlast : ∀ other, other < room + 1 →
          (other < room → tree.isFile (FileTree.behind (tree.here.take other) path) = false) →
          tree.isFile (FileTree.behind (tree.here.take other) path) = false := by
        intro other hother hless
        rcases Nat.lt_succ_iff_lt_or_eq.mp hother with hlt | rfl
        · exact hless hlt
        · exact hhere
      rw [hstep]
      rcases ih with ⟨depth, bytes, hfound, hdepth, hfile, hnearer⟩ | ⟨hfound, hall⟩
      · exact Or.inl ⟨depth, bytes, hfound, by omega, hfile, fun other hlt hother =>
          hlast other hother (hnearer other hlt)⟩
      · exact Or.inr ⟨hfound, fun depth hdepth => hlast depth hdepth (hall depth)⟩

/-- The layer of a file is that of the nearest one. -/
theorem nearest_nearestLayer (tree : FileTree) (path : String) :
    Nearest tree path (nearestLayer tree path) := by
  unfold nearestLayer
  rcases nearest?_cases tree path (tree.here.length + 1) with
    ⟨depth, bytes, hfound, hdepth, hfile, hnearer⟩ | ⟨hfound, hall⟩
  · rw [hfound]
    exact .found (by omega) hfile fun other hlt hother => hnearer other hlt (by omega)
  · rw [hfound]
    exact .nowhere fun depth hdepth => hall depth (by omega)

/-- What comes of loading the settings of a run: a file that is named but is no regular file is
reported, whatever the layers are; otherwise the layers are put together. -/
inductive Loaded (tree : FileTree) (assignments : List (String × String)) :
    Option String → Except Failure Settings → Prop where
  | missing {path : String} (hfile : tree.isFile path = false) :
      Loaded tree assignments (some path)
        (.error (.io path (.described .notFound "config file not found")))
  | unnamed {own : Layers} (hown : Nearest tree "multi-lookup.toml" own) :
      Loaded tree assignments none
        (Layers.settings ([.ofSettings {}] ++ own ++ [.ofVariables assignments]))
  | named {path : String} {own named : Layers} (hfile : tree.isFile path = true)
      (hown : Nearest tree "multi-lookup.toml" own) (hnamed : Nearest tree path named) :
      Loaded tree assignments (some path)
        (Layers.settings ([.ofSettings {}] ++ own ++ named ++ [.ofVariables assignments]))

/-- **What comes of loading**, with a named file and without. -/
theorem loaded_load (tree : FileTree) (assignments : List (String × String))
    (custom : Option String) : Loaded tree assignments custom (load tree assignments custom) := by
  have hown := nearest_nearestLayer tree fileName
  cases custom with
  | none =>
    have hload : load tree assignments none = (layers tree assignments []).settings := rfl
    rw [hload, layers, List.append_nil]
    exact .unnamed hown
  | some path =>
    cases hfile : tree.isFile path with
    | false =>
      rw [load_missing tree assignments hfile]
      exact .missing hfile
    | true =>
      have hload : load tree assignments (some path) =
          (layers tree assignments (nearestLayer tree path)).settings := by
        simp only [load, namedLayer, hfile, bind, Except.bind]
        rfl
      rw [hload]
      exact .named hfile hown (nearest_nearestLayer tree path)

/-- **Layers come to the settings that are made of their last words**, if all of them can be read,
every key is set, each last word is of the right kind, and these settings pass the check. A word
that a later one replaces has no part in it. The layers of a run are those of the standard settings,
of the two files and of the environment, in this order. -/
theorem made_of_last_words :
    (∀ layers : Layers, layers.Judged) ∧
      (∀ (earlier later : Layers) (source : LayerSource) (front back : List (String × Value))
        (key : String) (value : Value), (∃ word ∈ back ++ later.words, word.1 = key) →
        Layers.settings (earlier ++
            { source := source, content := .ok (front ++ (key, value) :: back) } :: later) =
          Layers.settings (earlier ++
            { source := source, content := .ok (front ++ back) } :: later)) ∧
      ∀ (tree : FileTree) (assignments : List (String × String)) (custom : Option String),
        Loaded tree assignments custom (load tree assignments custom) :=
  ⟨Layers.judged, fun _ _ _ _ _ _ _ => Layers.settings_of_overruled, loaded_load⟩

/-- The file sets the capacity to a text, and a sentinel that its own slots cannot hold. The
environment replaces both, and may even use the standard sentinel for names that were not found. A
directory in the place of a named file is reported, though the other file cannot be read and the
environment asks for a queue without slots. -/
theorem made_of_last_words_replaced_values :
    let file (front : List (String × Value)) : Layer :=
      { source := .file "multi-lookup.toml"
        content := .ok (front ++
          [("sentinel", .text "0123456789"), ("max_name_length", .signed 4)]) }
    let environment : Layer :=
      { source := .environment
        content := .ok [("queue_capacity", .unsigned 16), ("sentinel", .text "."),
          ("not_resolved", .text "\x7bEND\x7d")] }
    let layers : Layers := [.ofSettings {}, file [("queue_capacity", .text "lots")], environment]
    let made : Settings :=
      { queueCapacity := 16, maxNameLength := 4, sentinel := ".", notResolved := "\x7bEND\x7d" }
    let tree : FileTree :=
      { nodes := [(["conf"], .directory), (["multi-lookup.toml"], .file [0x3D])] }
    (∃ word ∈ [("sentinel", .text "0123456789"), ("max_name_length", .signed 4)] ++
          Layers.words [environment], word.1 = "queue_capacity") ∧
      layers.settings = Layers.settings [.ofSettings {}, file [], environment] ∧
      layers.settings = .ok made ∧ layers.MadeInto made ∧
      tree.isFile "conf" = false ∧
      load tree [("MULTI_LOOKUP_QUEUE_CAPACITY", "0")] (some "conf") =
        .error (.io "conf" (.described .notFound "config file not found")) := by
  intro file environment layers made tree
  have hlater : ∃ word ∈ [("sentinel", Value.text "0123456789"), ("max_name_length", .signed 4)] ++
      Layers.words [environment], word.1 = "queue_capacity" :=
    ⟨("queue_capacity", .unsigned 16), by simp [Layers.words, Layer.words, environment], rfl⟩
  have hsettings : layers.settings = .ok made := by rfl
  have hdirectory : tree.isFile "conf" = false := by decide +kernel
  obtain ⟨hjudged, hoverruled, hloaded⟩ := made_of_last_words
  obtain ⟨-, -, -, hmade, -⟩ := ((hjudged layers).settings_eq_ok_iff _).mp hsettings
  refine ⟨hlater, ?_, hsettings, hmade, hdirectory, ?_⟩
  · exact hoverruled [.ofSettings {}] [environment] (.file "multi-lookup.toml") [] _ _ _ hlater
  · have hload := hloaded tree [("MULTI_LOOKUP_QUEUE_CAPACITY", "0")] (some "conf")
    generalize load tree [("MULTI_LOOKUP_QUEUE_CAPACITY", "0")] (some "conf") = result at hload
    cases hload with
    | missing => rfl
    | named hfile =>
      rw [hdirectory] at hfile
      contradiction

end Settings

end HostLookup
