import ObjectGraph.Proofs.Compile.Emission
import ObjectGraph.Proofs.Name

/-!
# Provider names — which keys read alike

The name of a provider is made of the short name of the type and that of the qualifier: what stands
before the last path segment and behind the first `<` is dropped, the case of the two first characters is
fixed, and nothing stands between the two parts. Where they meet cannot be told from the name, so a key
may be read for another one whose type takes over a part of its qualifier.

* `Key.mapFirst_eq_iff` — what the case of the first character hides;
* `Key.stem`, `Key.ending` — the two parts of a name;
* `Key.providerName_segment` — what a name drops;
* `Key.Absorbs`, `Key.providerName_eq_iff` — the keys of one name;
* `names_are_shared_by_keys_that_read_alike` — the plans of a compilation.
-/

namespace ObjectGraph

namespace Key

/-! ## The case of the first character -/

/-- Texts that are equal but for their first characters, which have the same image. -/
def SameButFirst (f : Char → List Char) (text other : String) : Prop :=
  text.toList.head?.map f = other.toList.head?.map f ∧ text.toList.tail = other.toList.tail

theorem toList_mapFirst (f : Char → List Char) (text : String) :
    (mapFirst f text).toList = (text.toList.head?.map f).getD [] ++ text.toList.tail := by
  unfold mapFirst
  split
  · next hempty => simp [hempty]
  · next first rest hcons => simp [hcons]

/-- If the image of a first character is always one character, the mapped texts are the same for texts
that are equal but for their first characters, and for no others. -/
theorem mapFirst_eq_iff {f : Char → List Char} {text other : String}
    (htext : ∀ first ∈ text.toList.head?, (f first).length = 1)
    (hother : ∀ first ∈ other.toList.head?, (f first).length = 1) :
    mapFirst f text = mapFirst f other ↔ SameButFirst f text other := by
  rw [← String.toList_inj, toList_mapFirst, toList_mapFirst, SameButFirst]
  constructor
  · cases htoList : text.toList with
    | nil =>
      cases hotherList : other.toList with
      | nil => simp
      | cons second back =>
        -- The image of the first character cannot vanish.
        have hlength : (f second).length = 1 := hother second (by simp [hotherList])
        simpa using fun hnil : f second = [] => by simp [hnil] at hlength
    | cons first rest =>
      have hlength : (f first).length = 1 := htext first (by simp [htoList])
      cases hotherList : other.toList with
      | nil => simpa using fun hnil : f first = [] => by simp [hnil] at hlength
      | cons second back =>
        have hlengths : (f second).length = 1 := hother second (by simp [hotherList])
        -- Images of one length cannot run into what follows them.
        intro h
        have h : f first ++ rest = f second ++ back := h
        rcases List.append_inj h (hlength.trans hlengths.symm) with ⟨himage, hrest⟩
        exact ⟨congrArg some himage, hrest⟩
  · rintro ⟨hfirst, htail⟩
    rw [hfirst, htail]

/-- Only the capital i with a dot above has a longer image in lower case. -/
theorem length_lower {c : Char} (h : c ≠ 'İ') : (Text.lower c).length = 1 := by
  have hcode : c.toNat ≠ 0x0130 := fun hcode => h (Char.toNat_inj.1 hcode)
  have hone : Text.lowerTable.several.lookup c.toNat = none := by
    simp [Text.lowerTable, List.lookup_cons, beq_eq_false_iff_ne.2 hcode]
  unfold Text.lower Text.CaseTable.apply
  split
  · rfl
  · simp [hone]

/-! ## The two parts of a name -/

/-- The short name of the type, which starts in lower case. -/
def stem (key : Key) : String :=
  mapFirst Text.lower (shortName key.type)

/-- The short name of the qualifier, which starts in upper case; nothing without a qualifier. -/
def ending (key : Key) : String :=
  (key.qualifier.map fun qualifier => mapFirst Text.upper (shortName qualifier)).getD ""

theorem providerName_eq (key : Key) : key.providerName = key.stem ++ key.ending ++ "Provider" :=
  rfl

/-- A name shows neither the path of the type nor its generic arguments. -/
theorem providerName_segment {path name : String} (hpath : '<' ∉ path.toList)
    (hname : '<' ∉ name.toList) (hlast : ¬ Segmented (":" ++ name)) (arguments : String)
    (qualifier : Option Qualifier) :
    (⟨path ++ "::" ++ name ++ "<" ++ arguments, qualifier⟩ : Key).providerName =
      (⟨name, qualifier⟩ : Key).providerName := by
  have hwhole : '<' ∉ (path ++ "::" ++ name).toList := by simp [hpath, hname]
  have hshort : shortName (path ++ "::" ++ name ++ "<" ++ arguments) = shortName name :=
    calc shortName (path ++ "::" ++ name ++ "<" ++ arguments)
      _ = shortName (path ++ "::" ++ name) := shortName_generic hwhole arguments
      _ = name := shortName_path hpath hname hlast
      _ = shortName name := (shortName_of_segment hname fun h => hlast h.cons).symm
  simp only [providerName, hshort]

/-- The type of this key takes over what the qualifier of another one starts with. -/
def Absorbs (key other : Key) : Prop :=
  ∃ overlap, key.stem = other.stem ++ overlap ∧ other.ending = overlap ++ key.ending

/-- The name of a key is that of the keys whose types take over a piece of its qualifier, and of those
whose qualifiers its own type takes a piece of. -/
theorem providerName_eq_iff {key other : Key} :
    key.providerName = other.providerName ↔ other.Absorbs key ∨ key.Absorbs other := by
  simp only [providerName_eq, String.append_left_inj, Absorbs]
  constructor
  · -- One of the two stems is the longer one; what it has more of is the overlap.
    intro h
    rw [← String.toList_inj, String.toList_append, String.toList_append] at h
    rcases List.append_eq_append_iff.1 h with ⟨overlap, hstem, hending⟩ | ⟨overlap, hstem, hending⟩
    · refine Or.inl ⟨String.ofList overlap, ?_, ?_⟩
      · simp [← String.toList_inj, hstem]
      · simp [← String.toList_inj, hending]
    · refine Or.inr ⟨String.ofList overlap, ?_, ?_⟩
      · simp [← String.toList_inj, hstem]
      · simp [← String.toList_inj, hending]
  · rintro (⟨overlap, hstem, hending⟩ | ⟨overlap, hstem, hending⟩)
    · rw [hstem, hending, String.append_assoc]
    · rw [hstem, hending, String.append_assoc]

/-- Where the qualifiers read alike, as equal ones do, the types tell the names apart. -/
theorem providerName_eq_iff_stem {key other : Key} (h : key.ending = other.ending) :
    key.providerName = other.providerName ↔ key.stem = other.stem := by
  simp only [providerName_eq, h, String.append_left_inj]

/-- Where the types read alike the qualifiers tell the names apart. -/
theorem providerName_eq_iff_ending {key other : Key} (h : key.stem = other.stem) :
    key.providerName = other.providerName ↔ key.ending = other.ending := by
  simp only [providerName_eq, h, String.append_left_inj, String.append_right_inj]

theorem stem_eq_iff {key other : Key} (hkey : (shortName key.type).toList.head? ≠ some 'İ')
    (hother : (shortName other.type).toList.head? ≠ some 'İ') :
    key.stem = other.stem ↔ SameButFirst Text.lower (shortName key.type) (shortName other.type) :=
  mapFirst_eq_iff (fun _ hfirst => length_lower fun heq => hkey (heq ▸ hfirst))
    (fun _ hfirst => length_lower fun heq => hother (heq ▸ hfirst))

end Key

/-! ## Compilations -/

/-- The entries of a component have different keys, and names made of them. -/
theorem Compilation.pairwise_providers {manifest : Manifest} {config : Config}
    {compilation : Compilation} (hcompile : (compile manifest config).result = .ok compilation)
    {plan : ComponentPlan} (hplan : plan ∈ compilation.plan.components) :
    (plan.providers.Pairwise fun entry other => entry.key ≠ other.key) ∧
      ∀ entry ∈ plan.providers, entry.name = entry.key.providerName := by
  rcases Compilation.sound hcompile with ⟨hsound, hof, _⟩
  rw [hof] at hplan
  rcases List.mem_map.1 hplan with ⟨component, _, rfl⟩
  refine ⟨?_, ?_⟩
  · exact List.pairwise_map.1 (ComponentPlan.nodup_keys_providers hsound.keyed
      (hsound.ordered_topologicalOrder component).1)
  · intro entry hentry
    rcases Option.map_eq_some_iff.1 ((ComponentPlan.mem_providers_iff hsound.keyed).1 hentry) with
      ⟨node, _, rfl⟩
    rfl

/-- Two entries of a component have different keys. They have the same name exactly if the type of one
takes over a piece, which may be empty, of the other's qualifier. Where the qualifiers read alike, it is
enough that the types do, which is to say that their short names are equal but for the case of the first
letter; where the types read alike, it is enough that the qualifiers do. -/
theorem names_are_shared_by_keys_that_read_alike {manifest : Manifest} {config : Config}
    {compilation : Compilation} (hcompile : (compile manifest config).result = .ok compilation)
    {plan : ComponentPlan} (hplan : plan ∈ compilation.plan.components) :
    plan.providers.Pairwise fun entry other =>
      entry.key ≠ other.key ∧
      (entry.name = other.name ↔ other.key.Absorbs entry.key ∨ entry.key.Absorbs other.key) ∧
      (entry.key.ending = other.key.ending →
        (entry.name = other.name ↔ entry.key.stem = other.key.stem)) ∧
      (entry.key.stem = other.key.stem →
        (entry.name = other.name ↔ entry.key.ending = other.key.ending)) ∧
      ((shortName entry.key.type).toList.head? ≠ some 'İ' →
        (shortName other.key.type).toList.head? ≠ some 'İ' →
          (entry.key.stem = other.key.stem ↔
            Key.SameButFirst Text.lower (shortName entry.key.type) (shortName other.key.type))) := by
  rcases Compilation.pairwise_providers hcompile hplan with ⟨hkeys, hnames⟩
  refine hkeys.imp_of_mem ?_
  intro entry other hentry hother hne
  rw [hnames entry hentry, hnames other hother]
  exact ⟨hne, Key.providerName_eq_iff, Key.providerName_eq_iff_stem,
    Key.providerName_eq_iff_ending, Key.stem_eq_iff⟩

/-- One component with four pairs of keys that read alike: types that differ in their paths, in their
generic arguments or in the case of the first letter, and a type that ends in the qualifier of another. -/
def catalogManifest : Manifest where
  entryPoint := "App"
  components := [⟨"App", none, .component, []⟩]
  modules := [⟨"Net", ["App"]⟩]
  declarations :=
    [.provides ⟨"Net", "near", .resolved "app::Repo", none, none, [], false⟩,
      .provides ⟨"Net", "far", .resolved "data::Repo", none, none, [], false⟩,
      .provides ⟨"Net", "songs", .resolved "List<Song>", none, none, [], false⟩,
      .provides ⟨"Net", "albums", .resolved "List<Album>", none, none, [], false⟩,
      .provides ⟨"Net", "store", .resolved "Store", some "Local", none, [], false⟩,
      .provides ⟨"Net", "shelf", .resolved "StoreLocal", none, none, [], false⟩,
      .provides ⟨"Net", "clock", .resolved "Clock", none, none, [], false⟩,
      .provides ⟨"Net", "watch", .resolved "clock", none, none, [], false⟩]

def catalogCompilation : Compilation :=
  let hierarchy : Hierarchy := ⟨"App", .ofList [("App", ⟨none, none, [], 0⟩)]⟩
  ⟨catalogManifest, catalogManifest.graph hierarchy, .ofGraph (catalogManifest.graph hierarchy)⟩

theorem compile_catalogManifest :
    (compile catalogManifest .default).result = .ok catalogCompilation :=
  compile_eq_ok_of_errors (by decide +kernel) (by decide +kernel)

/-- Each pair has one name, though a component hosts both keys. -/
theorem catalog_has_four_names :
    (compile catalogManifest .default).result = .ok catalogCompilation ∧
      ∃ plan ∈ catalogCompilation.plan.components,
        ∀ pair ∈ [(Key.unqualified "app::Repo", Key.unqualified "data::Repo"),
            (.unqualified "List<Song>", .unqualified "List<Album>"),
            (.qualified "Store" "Local", .unqualified "StoreLocal"),
            (.unqualified "Clock", .unqualified "clock")],
          pair.1 ≠ pair.2 ∧ ∃ entry ∈ plan.providers, ∃ other ∈ plan.providers,
            entry.key = pair.1 ∧ other.key = pair.2 ∧ entry.name = other.name :=
  ⟨compile_catalogManifest, by decide +kernel⟩

/-- The type of the shelf takes over the whole qualifier of the store. -/
theorem shelf_is_read_as_a_store :
    (compile catalogManifest .default).result = .ok catalogCompilation ∧
      ∃ plan ∈ catalogCompilation.plan.components, ∃ store ∈ plan.providers,
        ∃ shelf ∈ plan.providers, store.key = .qualified "Store" "Local" ∧
          shelf.key = .unqualified "StoreLocal" ∧ store.key ≠ shelf.key ∧
            shelf.key.Absorbs store.key ∧ store.name = shelf.name := by
  have hplans : ∃ plan ∈ catalogCompilation.plan.components,
      plan.providers[3]?.map (·.key) = some (.qualified "Store" "Local") ∧
        plan.providers[4]?.map (·.key) = some (.unqualified "StoreLocal") := by
    decide +kernel
  rcases hplans with ⟨plan, hplan, hthird, hfourth⟩
  rcases Option.map_eq_some_iff.1 hthird with ⟨store, hstore, hstoreKey⟩
  rcases Option.map_eq_some_iff.1 hfourth with ⟨shelf, hshelf, hshelfKey⟩
  rcases List.getElem?_eq_some_iff.1 hstore with ⟨hthree, rfl⟩
  rcases List.getElem?_eq_some_iff.1 hshelf with ⟨hfour, rfl⟩
  rcases List.pairwise_iff_getElem.1
      (names_are_shared_by_keys_that_read_alike compile_catalogManifest hplan) 3 4 hthree hfour
      (by decide) with ⟨hkeys, hnames, _⟩
  have habsorbs : plan.providers[4].key.Absorbs plan.providers[3].key := by
    rw [hstoreKey, hshelfKey]
    exact ⟨"Local", by decide +kernel, by decide +kernel⟩
  exact ⟨compile_catalogManifest, plan, hplan, plan.providers[3], List.getElem_mem hthree,
    plan.providers[4], List.getElem_mem hfour, hstoreKey, hshelfKey, hkeys, habsorbs,
    hnames.2 (Or.inl habsorbs)⟩

end ObjectGraph
