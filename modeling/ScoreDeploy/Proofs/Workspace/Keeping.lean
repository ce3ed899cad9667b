import ScoreDeploy.Proofs.FileSystem.Retain
import ScoreDeploy.Proofs.Keystore.Store

/-!
# What a record keeps

A node sends an object, a receipt is read from it, and the receipt is written into the record of a
deployment. Nothing is lost on that way: the record holds every member of the object but a null
where a text is missing, and the receipt that is read from the record is the one that was written.
-/

namespace ScoreDeploy

open Json

/-! ### Members of a record -/

namespace Receipt

/-- Whether a member is a null that stands for a missing text. -/
def isMissing : String × Json → Bool
  | (key, .null) => ["scoreAddress", "txHash"].contains key
  | _ => false

/-- The members of an object that a record keeps. -/
def kept (members : Json.Members) : Json.Members :=
  members.filter fun m => !isMissing m

variable {receipt : Receipt} {members : Json.Members} {key : String}

theorem isMissing_eq_false (hkey : key ∉ ["scoreAddress", "txHash"]) (value : Json) :
    isMissing (key, value) = false := by
  cases value with
  | null => simpa [isMissing] using hkey
  | _ => rfl

/-- A text that may be missing is kept as the receipt gives it. -/
theorem filter_of_isOptionalText {entry : Option Json} {s : Option String}
    (hkey : key ∈ ["scoreAddress", "txHash"]) (h : Submission.IsOptionalText entry s) :
    (entry.filter fun v => !isMissing (key, v)) = s.map Json.string := by
  cases h with
  | absent => rfl
  | null =>
    have hmissing : isMissing (key, .null) = true := by simpa [isMissing] using hkey
    rw [Option.filter_some, hmissing]
    rfl
  | text s => rfl

/-- The members of the receipt in an object, put in order, are those that are kept of the object. -/
theorem ofList_members_eq_kept (hsorted : members.IsSorted) (hwritable : receipt.IsWritable)
    (h : Submission.HoldsReceipt (.object members) receipt) :
    Members.ofList receipt.members = kept members := by
  obtain ⟨hstatus, hcontract, hhash, hothers⟩ := h
  -- Sorted members are the same if they agree at each key: the receipt has its own part for a known
  -- key, and every other key is in the part that it takes over as it is.
  refine (Members.isSorted_ofList _).eq_of_get?_eq (hsorted.filter _) fun key => ?_
  by_cases hkey : key ∈ knownKeys
  · rw [hwritable.get?_ofList_members hkey, kept, hsorted.get?_filter]
    simp only [knownKeys, List.mem_cons, List.not_mem_nil, or_false] at hkey
    obtain rfl | rfl | rfl := hkey
    · rw [hstatus]
      rfl
    · rw [filter_of_isOptionalText (by decide) hcontract]
      simp
    · rw [filter_of_isOptionalText (by decide) hhash]
      simp
  · have hother : ∀ list : Json.Members, list.IsSorted →
        Members.get? (Members.without knownKeys list) key = Members.get? list key := by
      intro list hlist
      exact hlist.get?_filter_eq fun _ => by simpa using hkey
    have hpart : key ∉ ["scoreAddress", "txHash"] := fun hmem =>
      hkey (List.mem_cons_of_mem _ hmem)
    have hkept : Members.get? (kept members) key = Members.get? members key :=
      hsorted.get?_filter_eq fun v => by rw [isMissing_eq_false hpart]; rfl
    calc Members.get? (Members.ofList receipt.members) key
        = Members.get? (Members.without knownKeys (Members.ofList receipt.members)) key :=
          (hother _ (Members.isSorted_ofList _)).symm
      _ = Members.get? (Members.without knownKeys members) key := by
          rw [hwritable.without_ofList_members, hothers, knownKeys]
      _ = Members.get? members key := hother _ hsorted
      _ = Members.get? (kept members) key := hkept.symm

theorem fits_toJson (h : receipt.IsWritable) : Fits Number.IsToken maxDepth receipt.toJson := by
  have hmembers : ∀ m ∈ receipt.members, Fits Number.IsToken 126 m.2 :=
    forall_mem_members (fun s => .string _ s) (fun s => .string _ s) (fun s => .string _ s) h.fits
  exact .object hmembers

/-- The text of a receipt holds the members that are kept. -/
theorem read_text_eq_kept (hsorted : members.IsSorted) (hwritable : receipt.IsWritable)
    (h : Submission.HoldsReceipt (.object members) receipt) :
    Json.read receipt.toJson.pretty = .ok (.object (kept members)) := by
  rw [read_pretty_eq_canonical (fits_toJson hwritable),
    ← ofList_members_eq_kept hsorted hwritable h, ← hwritable.canonical_object_members]
  rfl

theorem exists_isOptionalText_iff {entry : Option Json} :
    (∃ s, Submission.IsOptionalText entry s) ↔
      entry = none ∨ entry = some .null ∨ ∃ s, entry = some (.string s) := by
  constructor
  · rintro ⟨_, h⟩
    cases h with
    | absent => exact .inl rfl
    | null => exact .inr (.inl rfl)
    | text s => exact .inr (.inr ⟨s, rfl⟩)
  · rintro (rfl | rfl | ⟨s, rfl⟩)
    · exact ⟨none, .absent⟩
    · exact ⟨none, .null⟩
    · exact ⟨some s, .text s⟩

/-- What an object must be like for a receipt to be read from it. -/
theorem exists_ofJson?_iff :
    (∃ receipt, ofJson? (.object members) = some receipt) ↔
      (∃ s, Members.get? members "status" = some (.string s)) ∧
        ∀ key ∈ ["scoreAddress", "txHash"], Members.get? members key = none ∨
          Members.get? members key = some .null ∨
            ∃ s, Members.get? members key = some (.string s) := by
  simp only [List.forall_mem_cons, List.not_mem_nil, false_imp_iff, implies_true, and_true,
    ← exists_isOptionalText_iff, Submission.ofJson?_eq_some_iff]
  constructor
  · rintro ⟨receipt, hstatus, hcontract, hhash, -⟩
    exact ⟨⟨_, hstatus⟩, ⟨_, hcontract⟩, ⟨_, hhash⟩⟩
  · rintro ⟨⟨status, hstatus⟩, ⟨contract, hcontract⟩, ⟨hash, hhash⟩⟩
    exact ⟨⟨status, contract, hash, _⟩, hstatus, hcontract, hhash, rfl⟩

end Receipt

/-! ### Files of records -/

namespace Workspace

variable {ws : Workspace} {package network : String} {receipt : Receipt} {fs fs' : FileSystem}
variable {path : Path} {calls : List ScoreDeploy.Call}

theorem yields_orIo_ok {σ : Type} {rule : MachineRule σ} {s t : σ} {answer : Except IoError Unit}
    {u : Unit} (h : (orIo path answer).Yields rule s calls (.ok u) t) :
    answer = .ok () ∧ calls = [] ∧ t = s := by
  obtain ⟨hcalls, hok, hstate⟩ := Action.yields_orFail.mp h
  exact ⟨Except.mapError_eq_ok_iff.mp hok.symm, hcalls, hstate⟩

/-- After a draft was written and renamed, its text is read under the new path. -/
theorem read_of_write_rename {draft record : Path} {content : Bytes} {p : Path} (htree : fs.IsTree)
    (h : (do
      orIo draft (← Action.host (.write draft content))
      orIo record (← Action.host (.rename draft record))
      return record : Action Error Path).Yields FileSystem.rule fs calls (.ok p) fs') :
    p = record ∧ fs'.read record = .ok content := by
  obtain ⟨written, _, hwrite, h₁⟩ := Action.yields_host_bind.mp h
  rcases Action.yields_bind.mp h₁ with ⟨_, -, he⟩ | ⟨_, _, fs₁, _, hok, h₂, -⟩
  · cases he
  obtain ⟨rfl, -, rfl⟩ := yields_orIo_ok hok
  obtain ⟨renamed, _, hrename, h₃⟩ := Action.yields_host_bind.mp h₂
  rcases Action.yields_bind.mp h₃ with ⟨_, -, he⟩ | ⟨_, _, fs₂, _, hok', h₄, -⟩
  · cases he
  obtain ⟨rfl, -, rfl⟩ := yields_orIo_ok hok'
  obtain ⟨-, hp, rfl⟩ := Action.yields_pure.mp h₄
  have htree₁ : fs₁.IsTree := htree.write hwrite
  exact ⟨Except.ok.inj hp, htree₁.read_of_rename hrename (FileSystem.retains_of_write hwrite).2⟩

/-- A record that was saved is the text of its receipt, whatever the package and the network are
called. -/
theorem read_of_saveRecord (htree : fs.IsTree)
    (h : (ws.saveRecord package network receipt).Yields FileSystem.rule fs calls (.ok path) fs') :
    path = ws.recordPath package network ∧
      fs'.read path = .ok (Bytes.ofText receipt.toJson.pretty) := by
  dsimp only [saveRecord] at h
  split at h
  · obtain ⟨made, _, hmake, h₁⟩ := Action.yields_host_bind.mp h
    have htree₁ := ((FileSystem.makesSome_of_rule hmake).changes fun _ => False).2 htree
    rcases Action.yields_bind.mp h₁ with ⟨_, -, he⟩ | ⟨_, _, _, _, hok, h₂, -⟩
    · cases he
    obtain ⟨-, -, rfl⟩ := yields_orIo_ok hok
    obtain ⟨rfl, hread⟩ := read_of_write_rename htree₁ h₂
    exact ⟨rfl, hread⟩
  · obtain ⟨rfl, hread⟩ := read_of_write_rename htree h
    exact ⟨rfl, hread⟩

/-- Every machine reads the receipt that the file of a record tells. -/
theorem value_record_of_tells (h : Tells fs Receipt.read (ws.recordPath package network) receipt)
    (m : Machine) (hfiles : m.files = fs) :
    Submission.refusing.value (ws.record package network).run m = .ok receipt := by
  obtain ⟨bytes, text, hread, htext, hreceipt⟩ := h
  subst hfiles
  apply Machine.value_eq_of_yields (t := m)
  refine Action.yields_mapError_ok.mpr ?_
  have hfetch : (readText (ws.recordPath package network)).Yields Machine.rule m []
      (.ok text) m := by
    refine Action.yields_host_bind.mpr ⟨.ok bytes, m, Prod.ext hread.symm rfl, ?_⟩
    simp only [htext]
    exact .refl _ _
  refine hfetch.bind_silent ?_
  rw [hreceipt]
  exact .refl _ _

/-- A receipt is read from an object just if the status is a text and the address and the hash are
missing, null or a text. Whatever such an object holds, as long as it is nested less than 127 deep
and its floats, if it has any, are read from their own texts: once the receipt in it has been saved,
the file of the record holds the members of the object, but for an address or a hash that is null,
and no others; and the receipt that is read from the record is the one that was saved. -/
theorem record_of_saveRecord {members : Json.Members} (hcanonical : IsCanonical (.object members))
    (hdepth : Fits (fun _ => True) 126 (.object members))
    (hfloats : ∀ x, HasNumber (.float x) (.object members) →
      Json.read x.text = .ok (.number (.float x))) :
    ((∃ receipt, Receipt.ofJson? (.object members) = some receipt) ↔
      (∃ s, Members.get? members "status" = some (.string s)) ∧
        ∀ key ∈ ["scoreAddress", "txHash"], Members.get? members key = none ∨
          Members.get? members key = some .null ∨
            ∃ s, Members.get? members key = some (.string s)) ∧
    ∀ receipt, Receipt.ofJson? (.object members) = some receipt →
      ∀ (ws : Workspace) (package network : String) (fs fs' : FileSystem) (path : Path)
        (calls : List ScoreDeploy.Call), fs.IsTree →
        (ws.saveRecord package network receipt).Yields FileSystem.rule fs calls (.ok path) fs' →
        path = ws.recordPath package network ∧
          Tells fs' Json.read path (.object (Receipt.kept members)) ∧
          ∀ m : Machine, m.files = fs' →
            Submission.refusing.value (ws.record package network).run m = .ok receipt := by
  refine ⟨Receipt.exists_ofJson?_iff, fun receipt hreceipt ws package network fs fs' path calls
    htree hsave => ?_⟩
  have hsorted : members.IsSorted := by
    cases hcanonical with
    | object hsorted _ => exact hsorted
  have hfits : Fits Number.IsToken 126 (.object members) := by
    refine hdepth.of_forall_hasNumber fun n hn => ?_
    cases n with
    | integer n => exact isToken_integer n
    | float x => exact isToken_of_read (hfloats x hn)
  have hholds := Submission.ofJson?_eq_some_iff.mp hreceipt
  have hwritable : receipt.IsWritable := Receipt.isWritable_of_holdsReceipt hcanonical hfits hholds
  obtain ⟨rfl, hread⟩ := read_of_saveRecord htree hsave
  have htext := Bytes.toText?_ofText receipt.toJson.pretty
  refine ⟨rfl, ⟨_, _, hread, htext, Receipt.read_text_eq_kept hsorted hwritable hholds⟩, ?_⟩
  exact value_record_of_tells ⟨_, _, hread, htext, hwritable.read_pretty⟩

/-- An object with an event in it, whose hash is null. -/
def eventful : Json.Members :=
  [("events", .array [.number (.integer ⟨7, by decide⟩)]), ("scoreAddress", .string "cx01"),
    ("status", .string "0x1"), ("txHash", .null)]

theorem isCanonical_eventful : IsCanonical (.object eventful) := by
  have hsorted : Members.IsSorted eventful := by
    rw [Members.IsSorted, eventful]
    decide +kernel
  refine .object hsorted ?_
  simp only [eventful, List.forall_mem_cons, List.not_mem_nil, false_imp_iff, implies_true,
    and_true]
  exact ⟨.array (List.forall_mem_singleton.mpr (.number _)), .string _, .string _, .null⟩

theorem fits_eventful : Fits (fun n => ∃ i, n = .integer i) 126 (.object eventful) := by
  refine .object ?_
  simp only [eventful, List.forall_mem_cons, List.not_mem_nil, false_imp_iff, implies_true,
    and_true]
  exact ⟨.array (List.forall_mem_singleton.mpr (.number _ ⟨_, rfl⟩)), .string _ _, .string _ _,
    .null _⟩

section

set_option maxRecDepth 20000

/-- A workspace that has no records yet. -/
def desk : Workspace := .ofRoot "." "config"

/-- The place of the directory of a package. -/
def shelfPlace : Place := ⟨4, ["local", "j", "deploy", "config"], rfl⟩

/-- The directories of a package in it. -/
def shelf : FileSystem where
  entries := [(⟨1, ["config"], rfl⟩, .directory), (⟨2, ["deploy", "config"], rfl⟩, .directory),
    (⟨3, ["j", "deploy", "config"], rfl⟩, .directory), (shelfPlace, .directory)]
  current := .root

theorem isTree_shelf : shelf.IsTree := by
  have hall : ∀ e ∈ shelf.entries, shelf.entry? e.1.parent = some .directory := by
    decide +kernel
  exact FileSystem.isTree_of_forall_mem hall

/-- The files when something was written as a draft and renamed. -/
def shelved (content : Bytes) : FileSystem :=
  ((shelf.put (shelfPlace.child "deploy.json.tmp") (.file content)).removeAt
    (shelfPlace.child "deploy.json.tmp")).put (shelfPlace.child "deploy.json") (.file content)

theorem yields_saveRecord_shelf (receipt : Receipt) :
    (desk.saveRecord "j" "local" receipt).Yields FileSystem.rule shelf []
      (.ok (desk.recordPath "j" "local")) (shelved (Bytes.ofText receipt.toJson.pretty)) := by
  generalize hcontent : Bytes.ofText receipt.toJson.pretty = content
  have hmake : shelf.makeDirectories (desk.networkPath "j" "local") = (.ok (), shelf) := by rfl
  have hwrite : shelf.write (desk.draftPath "j" "local") content =
      .ok (shelf.put (shelfPlace.child "deploy.json.tmp") (.file content)) := by rfl
  have hrename : FileSystem.rename (shelf.put (shelfPlace.child "deploy.json.tmp") (.file content))
      (desk.draftPath "j" "local") (desk.recordPath "j" "local") = .ok (shelved content) := by rfl
  rw [saveRecord_eq (by decide), hcontent]
  refine Action.yields_host_bind.mpr ⟨(.ok () : Except IoError Unit), _, hmake, ?_⟩
  refine Action.yields_host_bind.mpr ⟨(.ok () : Except IoError Unit), _, hwrite, ?_⟩
  exact Action.yields_host_bind.mpr ⟨(.ok () : Except IoError Unit), _, hrename, .refl _ _⟩

/-- The receipt in the object is recorded without the null, and is read again. -/
theorem record_of_saveRecord_eventful : ∃ receipt fs',
    Receipt.ofJson? (.object eventful) = some receipt ∧
      (desk.saveRecord "j" "local" receipt).Yields FileSystem.rule shelf []
        (.ok (desk.recordPath "j" "local")) fs' ∧
      Tells fs' Json.read (desk.recordPath "j" "local") (.object (eventful.take 3)) ∧
      ∀ m : Machine, m.files = fs' →
        Submission.refusing.value (desk.record "j" "local").run m = .ok receipt := by
  let receipt : Receipt := ⟨"0x1", some "cx01", none, eventful.take 1⟩
  have hreceipt : Receipt.ofJson? (.object eventful) = some receipt := by rfl
  have hsave := yields_saveRecord_shelf receipt
  have hfloats : ∀ x, HasNumber (.float x) (.object eventful) →
      Json.read x.text = .ok (.number (.float x)) := by
    intro x hx
    obtain ⟨i, hi⟩ := fits_eventful.of_hasNumber hx
    cases hi
  have hdepth : Fits (fun _ => True) 126 (.object eventful) :=
    fits_eventful.of_forall_hasNumber fun _ _ => trivial
  obtain ⟨-, hkept, hread⟩ := (record_of_saveRecord isCanonical_eventful hdepth hfloats).2 receipt
    hreceipt desk "j" "local" shelf _ _ [] isTree_shelf hsave
  exact ⟨receipt, _, hreceipt, hsave, hkept, hread⟩

end

end Workspace

end ScoreDeploy
