import RollupAudit.Command.Run
import RollupAudit.Proofs.Facts.Writings
import RollupAudit.Proofs.Snapshot.Source
import RollupAudit.Proofs.Text.Trim
import RollupAudit.Proofs.Text.Utf8

/-!
# The stages of loading

A run opens its places, reads its time and loads its plugins. Then it has a policy, a registry and a
source, and at last a chain and its snapshot. The chain is given, or it is the one that all documents of
the file of facts tell. They tell the id of their chain as they write it, while a snapshot has the id
without outer blanks.

**Results.**
* `Command.Opens.load_eq`, `Command.Equips.load_eq`: how a run loads on after a stage.
* `Command.load_eq_ok_iff`: what it takes to load.
* `Command.singleChain_eq_ok_iff`, `Command.singleChain_eq_error_iff`: the chain of a file.
* `Command.chainFor_ofDocuments`: when it is the chain of the snapshots.
-/

namespace RollupAudit
namespace Command

variable {t : FileTree} {s : Settings} {a : Arguments} {modules : List String} {places : Places}
variable {by_ : Option Timestamp} {registry : Registry} {source : SnapshotSource} {facts : Facts}

/-- That a run has places and a time, and its plugins can be loaded. -/
structure Opens (t : FileTree) (s : Settings) (a : Arguments) (modules : List String)
    (places : Places) (by_ : Option Timestamp) : Prop where
  hplaces : placesOf t s a = .ok places
  htime : readTime a.at_ = .ok by_
  hplugins : ∀ name ∈ a.plugins, loadPlugin modules name = .ok ()

/-- That a run which opens has a registry by its policy, and a source. -/
structure Equips (t : FileTree) (s : Settings) (a : Arguments) (modules : List String)
    (places : Places) (by_ : Option Timestamp) (registry : Registry) (source : SnapshotSource) :
    Prop where
  opens : Opens t s a modules places by_
  hregistry : ∃ policy, places.policy.elim (.ok {}) (Policy.ofFile t) = .ok policy ∧
    Registry.build policy = .ok registry
  hsource :
    SnapshotSource.ofName (sourceName s places.file) places.fixtures places.file = .ok source

theorem resolveGiven_some
    {text : String}
    (t : FileTree)
    (hgiven : text.isEmpty = false)
    (hbarrier : (FilePath.ofText text).barrier? = none) :
    resolveGiven t (some text) = .ok (some ((FilePath.ofText text).resolve ⟨.root, t.home⟩)) := by
  have htext : given (some text) = some text := by simp [given, Option.filter, hgiven]
  simp [resolveGiven, htext, resolve, hbarrier]

theorem exists_loaded_iff :
    (∃ loaded, a.plugins.mapM (loadPlugin modules) = .ok loaded) ↔
      ∀ name ∈ a.plugins, loadPlugin modules name = .ok () := by
  rw [exists_mapM_eq_ok_iff]
  exact forall₂_congr fun name _ => ⟨fun ⟨_, h⟩ => h, fun h => ⟨(), h⟩⟩

/-- A run that opens loads on with its policy. -/
theorem Opens.load_eq
    (h : Opens t s a modules places by_) :
    load t s a modules = do
      let policy ← (places.policy.elim (.ok {}) (Policy.ofFile t)).mapError .policy
      let registry ← (Registry.build policy).mapError .registry
      let source ←
        (SnapshotSource.ofName (sourceName s places.file) places.fixtures places.file).mapError
          .sourceChoice
      let chain ← chainFor t a places.file
      let facts ← (source.fetch t chain by_).mapError .source
      return (registry, facts) := by
  obtain ⟨hplaces, htime, hplugins⟩ := h
  obtain ⟨loaded, hloaded⟩ := exists_loaded_iff.mpr hplugins
  rw [load, bind_of_eq_ok hplaces, bind_of_eq_ok (mapError_eq_ok_iff.mpr htime),
    bind_of_eq_ok (mapError_eq_ok_iff.mpr hloaded)]

/-- A run that has a registry and a source loads on with its chain. -/
theorem Equips.load_eq
    (h : Equips t s a modules places by_ registry source) :
    load t s a modules = do
      let chain ← chainFor t a places.file
      let facts ← (source.fetch t chain by_).mapError .source
      return (registry, facts) := by
  obtain ⟨hopens, ⟨policy, hpolicy, hregistry⟩, hsource⟩ := h
  rw [hopens.load_eq, bind_of_eq_ok (mapError_eq_ok_iff.mpr hpolicy),
    bind_of_eq_ok (mapError_eq_ok_iff.mpr hregistry), bind_of_eq_ok (mapError_eq_ok_iff.mpr hsource)]

theorem load_eq_ok_iff :
    load t s a modules = .ok (registry, facts) ↔
      ∃ places by_ source chain, Equips t s a modules places by_ registry source ∧
        chainFor t a places.file = .ok chain ∧ source.fetch t chain by_ = .ok facts := by
  constructor
  · intro h
    simp only [load, bind_eq_ok_iff, mapError_eq_ok_iff, pure, Except.pure, Except.ok.injEq,
      Prod.mk.injEq] at h
    obtain ⟨places, hplaces, by_, htime, loaded, hloaded, policy, hpolicy, _, hregistry, source,
      hsource, chain, hchain, _, hfacts, rfl, rfl⟩ := h
    have hopens : Opens t s a modules places by_ :=
      ⟨hplaces, htime, exists_loaded_iff.mp ⟨loaded, hloaded⟩⟩
    exact ⟨places, by_, source, chain, ⟨hopens, ⟨policy, hpolicy, hregistry⟩, hsource⟩, hchain,
      hfacts⟩
  · rintro ⟨places, by_, source, chain, hequips, hchain, hfacts⟩
    rw [hequips.load_eq, bind_of_eq_ok hchain, bind_of_eq_ok (mapError_eq_ok_iff.mpr hfacts)]
    rfl

end Command

/-! ## The chain of a file -/

/-- A row of octets is never quoted as the trimmed text that it spells. -/
theorem Text.quotedOctets_encodeUtf8_ne_strip
    (s : String) :
    quotedOctets (encodeUtf8 s) ≠ strip (spelled s) := by
  intro h
  have hquoted := length_lt_length_quotedOctets (encodeUtf8 s)
  have hoctets := length_spelled_le s
  have hstrip := length_strip_le (spelled s)
  rw [h] at hquoted
  omega

namespace Command

variable {t : FileTree} {p : FilePath} {v : Value} {f : Facts} {written told told' : String}
variable {docs : List Value} {fs : List Facts} {chains : List String}

/-- That a document writes the id of its chain as a text or as the octets of one, and what it tells by
it: the octets are quoted. -/
inductive WritesChain (v : Value) : (written told : String) → Prop
  | text
      {s : String}
      (h : v.get? "chain_id" = some (.text s)) :
      WritesChain v s s
  | octets
      {s : String}
      (h : v.get? "chain_id" = some (.octets (Text.encodeUtf8 s))) :
      WritesChain v (Text.spelled s) (Text.quotedOctets (Text.encodeUtf8 s))

/-- That a document tells a chain. -/
def TellsChain (v : Value) (told : String) : Prop := ∃ written, WritesChain v written told

theorem WritesChain.told_unique
    (h : WritesChain v written told)
    (h' : TellsChain v told') :
    told' = told := by
  obtain ⟨written', h'⟩ := h'
  cases h <;> cases h' <;> simp_all

theorem chainOf_of_get?
    {w : Value}
    (h : v.get? "chain_id" = some w)
    (hw : w.isGiven = true) :
    chainOf v = w.plain?.elim (.error .longChainId) .ok := by
  rw [chainOf, h, Option.filter_some, if_pos hw]

/-- What a document writes, if it is not empty, is what it tells. -/
theorem WritesChain.chainOf_eq
    (h : WritesChain v written told)
    (hwritten : written ≠ "") :
    chainOf v = .ok told ∧ told ≠ "" := by
  cases h with
  | text h =>
    have hgiven : (Value.text written).isGiven = true := by simpa [Value.isGiven] using hwritten
    exact ⟨chainOf_of_get? h hgiven, hwritten⟩
  | @octets s h =>
    have hlength := Text.length_spelled_le s
    have hquoted := Text.length_lt_length_quotedOctets (Text.encodeUtf8 s)
    have hgiven : (Value.octets (Text.encodeUtf8 s)).isGiven = true := by
      simp only [Value.isGiven, Bool.not_eq_true', List.isEmpty_eq_false_iff]
      intro hnil
      rw [hnil] at hlength
      exact hwritten (String.length_eq_zero_iff.mp (Nat.le_zero.mp hlength))
    refine ⟨chainOf_of_get? h hgiven, fun hempty => ?_⟩
    rw [hempty] at hquoted
    exact absurd hquoted (Nat.not_lt_zero _)

/-- A document that is accepted writes the id of its chain, with or without outer blanks. -/
theorem exists_writesChain_of_ofValue
    (h : Facts.ofValue v = .ok f) :
    ∃ written told, WritesChain v written told ∧ Text.strip written = f.chainId ∧ f.chainId ≠ "" := by
  obtain ⟨es, rfl, -, hgives⟩ := Facts.ofValue_eq_ok_iff.mp h
  obtain ⟨w, hlookup, hw⟩ := Fields.required_eq_accepted_iff.mp hgives.chainId
  obtain ⟨s, hs, hstrip, hne⟩ := Reading.chainId_eq_accepted_iff.mp hw
  unfold Scalar.readText at hs
  split at hs
  · cases hs
    exact ⟨s, s, .text hlookup, hstrip, hne⟩
  · split at hs
    · rename_i text hdecode
      cases hs
      rw [Text.decodeUtf8_eq_ok_iff] at hdecode
      subst hdecode
      exact ⟨Text.spelled text, _, .octets hlookup, hstrip, hne⟩
    · cases hs
  · cases hs

/-- What a document tells that is accepted. -/
theorem exists_tellsChain_of_ofValue
    (h : Facts.ofValue v = .ok f) :
    ∃ told, chainOf v = .ok told ∧ told ≠ "" ∧ ∀ told', TellsChain v told' ↔ told' = told := by
  obtain ⟨written, told, hwrites, hstrip, hne⟩ := exists_writesChain_of_ofValue h
  have hwritten : written ≠ "" := by
    rintro rfl
    exact hne hstrip.symm
  obtain ⟨hchain, htold⟩ := hwrites.chainOf_eq hwritten
  refine ⟨told, hchain, htold, fun told' => ⟨hwrites.told_unique, ?_⟩⟩
  rintro rfl
  exact ⟨written, hwrites⟩

/-- The chains that documents tell, each of them once. -/
structure AreTold (docs : List Value) (chains : List String) : Prop where
  nodup : chains.Nodup
  mem_iff : ∀ c, c ∈ chains ↔ ∃ v ∈ docs, TellsChain v c

/-- Documents tell one list of chains, up to its order. -/
theorem AreTold.perm
    {chains' : List String}
    (h : AreTold docs chains)
    (h' : AreTold docs chains') :
    chains.Perm chains' :=
  (List.perm_ext_iff_of_nodup h.nodup h'.nodup).mpr fun c => by rw [h.mem_iff, h'.mem_iff]

/-- What accepted documents tell, one by one. -/
theorem exists_mapM_chainOf
    (hfacts : List.Forall₂ (fun v f => Facts.ofValue v = .ok f) docs fs) :
    ∃ told, docs.mapM chainOf = .ok told ∧ (∀ c ∈ told, c ≠ "") ∧
      ∀ c, c ∈ told ↔ ∃ v ∈ docs, TellsChain v c := by
  induction hfacts with
  | nil => exact ⟨[], rfl, by simp, by simp⟩
  | @cons v f docs fs hf _ ih =>
    obtain ⟨c, hc, hne, htells⟩ := exists_tellsChain_of_ofValue hf
    obtain ⟨told, htold, hall, hmem⟩ := ih
    refine ⟨c :: told, ?_, ?_, fun c' => ?_⟩
    · rw [List.mapM_cons, bind_of_eq_ok hc, bind_of_eq_ok htold]
      rfl
    · exact List.forall_mem_cons.mpr ⟨hne, hall⟩
    · rw [List.mem_cons, hmem, List.exists_mem_cons_iff, htells]

/-- The chain of a file whose documents are accepted is the only one that they tell, if there is one. -/
theorem exists_areTold
    (hdocs : Snapshot.HasDocuments t p docs)
    (hfacts : List.Forall₂ (fun v f => Facts.ofValue v = .ok f) docs fs) :
    ∃ chains, AreTold docs chains ∧
      singleChain t p = match chains with
        | [chain] => .ok chain
        | chains => .error (.chainCount p chains.length) := by
  obtain ⟨told, htold, hne, hmem⟩ := exists_mapM_chainOf hfacts
  have hfilter : (told.filter fun s => !s.isEmpty) = told :=
    List.filter_eq_self.mpr fun c hc => by simpa using hne c hc
  refine ⟨told.eraseDups, ⟨nodup_eraseDups told, fun c => by rw [List.mem_eraseDups, hmem]⟩, ?_⟩
  have hread : (Snapshot.documents t p "").mapError Failure.source = .ok docs :=
    mapError_eq_ok_iff.mpr (Snapshot.documents_eq_ok_iff.mpr hdocs)
  rw [singleChain, bind_of_eq_ok hread, bind_of_eq_ok htold, hfilter]
  rfl

/-- A file has the chain that all its documents tell. -/
theorem singleChain_eq_ok_iff
    {c : String}
    (hdocs : Snapshot.HasDocuments t p docs)
    (hne : docs ≠ [])
    (hfacts : List.Forall₂ (fun v f => Facts.ofValue v = .ok f) docs fs) :
    singleChain t p = .ok c ↔ ∀ v ∈ docs, TellsChain v c := by
  obtain ⟨chains, htold, hsingle⟩ := exists_areTold hdocs hfacts
  have htells (v : Value) (hv : v ∈ docs) : ∃ c, ∀ c', TellsChain v c' ↔ c' = c := by
    obtain ⟨f, -, hf⟩ := exists_mem_of_forall₂ hfacts hv
    obtain ⟨c, -, -, hc⟩ := exists_tellsChain_of_ofValue hf
    exact ⟨c, hc⟩
  rw [hsingle]
  constructor
  · intro h v hv
    obtain ⟨c', hc'⟩ := htells v hv
    have hmem : c' ∈ chains := (htold.mem_iff c').mpr ⟨v, hv, (hc' c').mpr rfl⟩
    split at h
    · cases h
      rwa [hc', eq_comm, ← List.mem_singleton]
    · cases h
  · intro h
    obtain ⟨v, hv⟩ := List.exists_mem_of_ne_nil docs hne
    have hall : ∀ c' ∈ chains, c' = c := by
      intro c' hc'
      obtain ⟨w, hw, htold'⟩ := (htold.mem_iff c').mp hc'
      obtain ⟨_, hunique⟩ := htells w hw
      rw [(hunique c').mp htold', (hunique c).mp (h w hw)]
    have hmem : c ∈ chains := (htold.mem_iff c).mpr ⟨v, hv, h v hv⟩
    have hchains : chains = [c] := by
      have hreplicate := List.eq_replicate_of_mem hall
      have hnodup := htold.nodup
      rw [hreplicate, List.nodup_replicate] at hnodup
      have hpos := List.length_pos_of_mem hmem
      rw [hreplicate, show chains.length = 1 by omega]
      rfl
    rw [hchains]

/-- A file whose documents tell several chains has none, and is told how many they are. -/
theorem singleChain_eq_error_iff
    {e : Failure}
    (hdocs : Snapshot.HasDocuments t p docs)
    (hne : docs ≠ [])
    (hfacts : List.Forall₂ (fun v f => Facts.ofValue v = .ok f) docs fs) :
    singleChain t p = .error e ↔
      ∃ chains, AreTold docs chains ∧ 2 ≤ chains.length ∧ e = .chainCount p chains.length := by
  obtain ⟨chains, htold, hsingle⟩ := exists_areTold hdocs hfacts
  rw [hsingle]
  constructor
  · intro h
    split at h
    · cases h
    · rename_i hmany
      cases h
      refine ⟨chains, htold, ?_, rfl⟩
      match chains, htold with
      | [], htold =>
        obtain ⟨v, hv⟩ := List.exists_mem_of_ne_nil docs hne
        obtain ⟨f, -, hf⟩ := exists_mem_of_forall₂ hfacts hv
        obtain ⟨c, -, -, hc⟩ := exists_tellsChain_of_ofValue hf
        cases (htold.mem_iff c).mpr ⟨v, hv, (hc c).mpr rfl⟩
      | [c], _ => exact absurd rfl (hmany c)
      | _ :: _ :: _, _ => simp
  · rintro ⟨chains', htold', hlength, rfl⟩
    rw [(htold'.perm htold).length_eq] at hlength ⊢
    split
    · cases Nat.not_succ_le_self 1 hlength
    · rfl

/-- What a document tells is the id of its chain exactly if it writes the id as a text without outer
blanks: octets are quoted. -/
theorem tellsChain_chainId_iff
    (h : Facts.ofValue v = .ok f) :
    TellsChain v f.chainId ↔ v.get? "chain_id" = some (.text f.chainId) := by
  obtain ⟨written, told, hwrites, hstrip, -⟩ := exists_writesChain_of_ofValue h
  constructor
  · intro htells
    have htold := hwrites.told_unique htells
    cases hwrites with
    | text hget => rwa [htold]
    | octets => exact absurd (htold.symm.trans hstrip.symm) (Text.quotedOctets_encodeUtf8_ne_strip _)
  · exact fun hget => ⟨_, .text hget⟩

/-- Documents that write their chains as texts and are of different chains tell several. -/
theorem exists_singleChain_eq_error
    (hdocs : Snapshot.HasDocuments t p docs)
    (hfacts : List.Forall₂ (fun v f => Facts.ofValue v = .ok f) docs fs)
    (htexts : ∀ v ∈ docs, ∃ s, v.get? "chain_id" = some (.text s))
    (hchains : ∃ f ∈ fs, ∃ g ∈ fs, f.chainId ≠ g.chainId) :
    ∃ n, singleChain t p = .error (.chainCount p n) := by
  -- A chain that two documents tell is written by both, and then both are of that chain.
  have hstrip {c : String} (hc : singleChain t p = .ok c) (f : Facts) (hf : f ∈ fs) :
      f.chainId = Text.strip c := by
    obtain ⟨v, hv, hvf⟩ := exists_mem_of_forall₂ (List.Forall₂.flip (R := flip _) hfacts) hf
    have htells := (singleChain_eq_ok_iff hdocs (List.ne_nil_of_mem hv) hfacts).mp hc v hv
    obtain ⟨s, hs⟩ := htexts v hv
    obtain ⟨written, told, hwrites, hstrip, -⟩ := exists_writesChain_of_ofValue hvf
    rw [hwrites.told_unique htells, ← hstrip]
    cases hwrites with
    | text => rfl
    | octets h =>
      rw [hs] at h
      cases h
  obtain ⟨f, hf, g, hg, hne⟩ := hchains
  cases hsingle : singleChain t p with
  | ok c => exact absurd ((hstrip hsingle f hf).trans (hstrip hsingle g hg).symm) hne
  | error e =>
    obtain ⟨v, hv, -⟩ := exists_mem_of_forall₂ (List.Forall₂.flip (R := flip _) hfacts) hf
    obtain ⟨chains, -, -, rfl⟩ :=
      (singleChain_eq_error_iff hdocs (List.ne_nil_of_mem hv) hfacts).mp hsingle
    exact ⟨chains.length, rfl⟩

/-- The snapshots of one chain give the first latest of them. -/
theorem exists_fetch_firstLatest
    {c : String}
    (hdocs : Snapshot.HasDocuments t p docs)
    (hne : docs ≠ [])
    (hfacts : List.Forall₂ (fun v f => Facts.ofValue v = .ok f) docs fs)
    (hchain : ∀ f ∈ fs, f.chainId = c) :
    ∃ f, (SnapshotSource.file p).fetch t c none = .ok f ∧ Snapshot.IsFirstLatest fs f := by
  have hall : fs.filter (Snapshot.isCandidate c none) = fs :=
    List.filter_eq_self.mpr fun f hf => by simp [Snapshot.isCandidate, hchain f hf]
  have hfs : fs ≠ [] := by
    rintro rfl
    exact hne (List.forall₂_nil_right_iff.mp hfacts)
  obtain ⟨g, gs, rfl⟩ := List.exists_cons_of_ne_nil hfs
  have hselect : Snapshot.select? (g :: gs) c none = some (gs.foldl Snapshot.later g) := by
    rw [Snapshot.select?, hall]
    rfl
  refine ⟨_, ?_, Snapshot.isFirstLatest_foldl g gs⟩
  rw [SnapshotSource.fetch_eq (.file hdocs) hfacts, hselect]
  rfl

/-- Without a chain among the arguments, a run takes the chain that all documents of its file tell, and
without one it fails and says how many they tell. A document tells the id of its chain as it writes it:
with outer blanks, and octets in quotes. So for snapshots of one chain the run has this chain, and with
it the first latest of them, exactly if all documents write its id as a text without outer blanks. -/
theorem chainFor_ofDocuments
    {t : FileTree} {a : Arguments} {p : FilePath} {docs : List Value} {fs : List Facts}
    (ha : a.chainId = none)
    (hdocs : Snapshot.HasDocuments t p docs)
    (hne : docs ≠ [])
    (hfacts : List.Forall₂ (fun v f => Facts.ofValue v = .ok f) docs fs) :
    (∀ c, chainFor t a (some p) = .ok c ↔ ∀ v ∈ docs, TellsChain v c) ∧
      (∀ e, chainFor t a (some p) = .error e ↔
        ∃ chains, AreTold docs chains ∧ 2 ≤ chains.length ∧ e = .chainCount p chains.length) ∧
      (∀ c, (∀ f ∈ fs, f.chainId = c) →
        (chainFor t a (some p) = .ok c ↔ ∀ v ∈ docs, v.get? "chain_id" = some (.text c)) ∧
          ∃ f, (SnapshotSource.file p).fetch t c none = .ok f ∧ Snapshot.IsFirstLatest fs f) ∧
      ((∀ v ∈ docs, ∃ s, v.get? "chain_id" = some (.text s)) →
        (∃ f ∈ fs, ∃ g ∈ fs, f.chainId ≠ g.chainId) →
        ∃ n, chainFor t a (some p) = .error (.chainCount p n)) := by
  have hchain : chainFor t a (some p) = singleChain t p := by
    simp only [chainFor, ha]
  rw [hchain]
  refine ⟨fun c => singleChain_eq_ok_iff hdocs hne hfacts,
    fun e => singleChain_eq_error_iff hdocs hne hfacts, fun c hc => ⟨?_, ?_⟩,
    exists_singleChain_eq_error hdocs hfacts⟩
  · rw [singleChain_eq_ok_iff hdocs hne hfacts]
    refine forall₂_congr fun v hv => ?_
    obtain ⟨f, hf, hvf⟩ := exists_mem_of_forall₂ hfacts hv
    obtain rfl := hc f hf
    exact tellsChain_chainId_iff hvf
  · exact exists_fetch_firstLatest hdocs hne hfacts hc

/-- The document of a snapshot of the first minute of 1970, with an id of its chain. -/
def chainEntry (written : String) : Json :=
  .object [("chain_id", .text written), ("observed_at", .int 60)]

/-- A directory with a file of that document. -/
def chainFile (written : String) : FileTree where
  files := [(["facts.json"], Text.encodeUtf8 ((chainEntry written).writeAsIs Store.layout))]

def chainFilePath : FilePath := ⟨.here, ["facts.json"]⟩

theorem isReadable_chainEntry
    {written : String}
    (h : Text.isWhole written = true) :
    (chainEntry written).IsReadable := by
  have hsixty : Text.isWritable 60 = true := by decide +kernel
  have hkeys : ∀ s ∈ ["chain_id", "observed_at"], Text.isWhole s = true := by decide
  simp only [List.forall_mem_cons] at hkeys
  simp [chainEntry, Json.IsReadable, Json.MembersReadable, hsixty, hkeys, h]

theorem hasDocuments_chainFile
    (written : String)
    (h : Text.isWhole written = true) :
    Snapshot.HasDocuments (chainFile written) chainFilePath [Value.ofJson (chainEntry written)] where
  found := rfl
  read := ⟨_, FileTree.document_writeAsIs (isReadable_chainEntry h) (by decide +kernel) rfl,
    .alone rfl rfl⟩

theorem ofValue_chainEntry :
    Facts.ofValue (Value.ofJson (chainEntry "10")) = .ok SnapshotSource.minuteSnapshot ∧
      Facts.ofValue (Value.ofJson (chainEntry " 10 ")) = .ok SnapshotSource.minuteSnapshot := by
  constructor <;>
    exact Facts.ofValue_eq_ok_iff.mpr
      ⟨_, rfl, ⟨rfl, rfl⟩, rfl, by decide +kernel, rfl, rfl, rfl, rfl, rfl, rfl, rfl, rfl⟩

/-- The chain of a file is that of its snapshot, which it gives, if the document writes it without
blanks. -/
theorem chainFor_ofDocuments_trimmed :
    chainFor (chainFile "10") {} (some chainFilePath) = .ok "10" ∧
      (SnapshotSource.file chainFilePath).fetch (chainFile "10") "10" none =
        .ok SnapshotSource.minuteSnapshot := by
  obtain ⟨-, -, h, -⟩ := chainFor_ofDocuments (a := {}) rfl (hasDocuments_chainFile "10" (by decide))
    (by simp) (.cons ofValue_chainEntry.1 .nil)
  obtain ⟨hchain, f, hfetch, hlatest⟩ := h "10" (by simp [SnapshotSource.minuteSnapshot])
  refine ⟨hchain.mpr fun v hv => ?_, ?_⟩
  · obtain rfl := List.mem_singleton.mp hv
    rfl
  · rw [hfetch, hlatest.unique ⟨[], [], rfl, by simp, by simp⟩]

/-- A document that writes the id of its chain with blanks is accepted as a snapshot of the chain, but
the run takes the chain with the blanks, of which there is no snapshot. -/
theorem chainFor_keepsBlanks :
    Snapshot.HasDocuments (chainFile " 10 ") chainFilePath [Value.ofJson (chainEntry " 10 ")] ∧
      Facts.ofValue (Value.ofJson (chainEntry " 10 ")) = .ok SnapshotSource.minuteSnapshot ∧
      SnapshotSource.minuteSnapshot.chainId = "10" ∧
      chainFor (chainFile " 10 ") {} (some chainFilePath) = .ok " 10 " ∧
      (SnapshotSource.file chainFilePath).fetch (chainFile " 10 ") " 10 " none =
        .error (.unavailable " 10 " (.noSnapshot none)) := by
  have hdocs := hasDocuments_chainFile " 10 " (by decide)
  have hfacts : List.Forall₂ (fun v f => Facts.ofValue v = .ok f) [Value.ofJson (chainEntry " 10 ")]
      [SnapshotSource.minuteSnapshot] := .cons ofValue_chainEntry.2 .nil
  refine ⟨hdocs, ofValue_chainEntry.2, rfl, ?_, ?_⟩
  · refine (singleChain_eq_ok_iff hdocs (by simp) hfacts).mpr fun v hv => ?_
    obtain rfl := List.mem_singleton.mp hv
    exact ⟨" 10 ", .text rfl⟩
  · rw [SnapshotSource.fetch_eq (.file hdocs) hfacts]
    simp [Snapshot.select?, Snapshot.isCandidate, Snapshot.latest?, SnapshotSource.minuteSnapshot]

end Command
end RollupAudit
