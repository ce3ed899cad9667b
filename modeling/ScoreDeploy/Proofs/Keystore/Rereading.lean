import ScoreDeploy.Proofs.Keystore.Loading

/-!
# Keystore files that are read again

A keystore file that was written is read as the keystore that it was written for, and a file that
was written from another one is left as it is by every further round. The parameters of a derivation
are told by their members alone: those of scrypt, if all of them are there, and otherwise those of
PBKDF2.
-/

namespace ScoreDeploy.Keystore

open Json

/-! ### Parameters by their members -/

variable {members : Members} {derivation : Derivation}

/-- Whether the key is derived with scrypt. -/
def isScrypt : Derivation → Bool
  | .scrypt .. => true
  | .pbkdf2 .. => false

/-- The members hold the parameters of the derivation, each of them once. -/
inductive Holds (members : Members) : Derivation → Prop
  | scrypt {length rows : UInt64} {blockFactor lanes : UInt32} {salt : String} :
      members.single? "dklen" = some (.ofWord length) → members.single? "n" = some (.ofWord rows) →
      members.single? "r" = some (.ofWord blockFactor.toUInt64) →
      members.single? "p" = some (.ofWord lanes.toUInt64) →
      members.single? "salt" = some (.string salt) →
      Holds members (.scrypt length rows blockFactor lanes salt)
  | pbkdf2 {iterations : UInt32} {length : UInt64} {function salt : String} :
      members.single? "c" = some (.ofWord iterations.toUInt64) →
      members.single? "dklen" = some (.ofWord length) →
      members.single? "prf" = some (.string function) →
      members.single? "salt" = some (.string salt) →
      Holds members (.pbkdf2 iterations length function salt)

theorem naturalBelow?_eq_some_iff {limit n : Nat} {value : Json} :
    naturalBelow? limit value = some n ↔
      ∃ bounds, value = .number (.integer ⟨n, bounds⟩) ∧ n < limit := by
  constructor
  · intro h
    unfold naturalBelow? at h
    split at h
    · next k =>
      split_ifs at h with hk
      obtain ⟨k, bounds⟩ := k
      obtain ⟨n, rfl⟩ := Int.eq_ofNat_of_zero_le hk.1
      obtain rfl := Option.some.inj h
      exact ⟨bounds, rfl, Int.ofNat_lt.mp hk.2⟩
    · cases h
  · rintro ⟨bounds, rfl, hlt⟩
    have hrange : (0 : Int) ≤ n ∧ (n : Int) < limit := ⟨Int.natCast_nonneg n, Int.ofNat_lt.mpr hlt⟩
    exact if_pos hrange

theorem word64?_eq_some_iff {value : Json} {n : UInt64} :
    word64? value = some n ↔ value = .ofWord n := by
  constructor
  · intro h
    obtain ⟨k, hk, rfl⟩ := Option.map_eq_some_iff.mp h
    obtain ⟨bounds, rfl, hlt⟩ := naturalBelow?_eq_some_iff.mp hk
    simp [ofWord, UInt64.toNat_ofNat_of_lt' hlt]
  · rintro rfl
    exact word64?_ofWord n

theorem word32?_eq_some_iff {value : Json} {n : UInt32} :
    word32? value = some n ↔ value = .ofWord n.toUInt64 := by
  constructor
  · intro h
    obtain ⟨k, hk, rfl⟩ := Option.map_eq_some_iff.mp h
    obtain ⟨bounds, rfl, hlt⟩ := naturalBelow?_eq_some_iff.mp hk
    simp [ofWord, UInt32.toNat_ofNat_of_lt' hlt]
  · rintro rfl
    exact word32?_ofWord n

theorem scryptOf?_eq_some_iff :
    scryptOf? members = some derivation ↔
      Holds members derivation ∧ isScrypt derivation = true := by
  constructor
  · intro h
    simp only [scryptOf?, Option.bind_eq_bind, Option.bind_eq_some_iff, word64?_eq_some_iff,
      word32?_eq_some_iff, string?_eq_some_iff] at h
    obtain ⟨_, hlength, length, rfl, _, hrows, rows, rfl, _, hfactor, factor, rfl, _, hlanes, lanes,
      rfl, _, hsalt, salt, rfl, hderivation⟩ := h
    obtain rfl := Option.some.inj hderivation
    exact ⟨.scrypt hlength hrows hfactor hlanes hsalt, rfl⟩
  · rintro ⟨hholds, hscrypt⟩
    cases hholds with
    | scrypt hlength hrows hfactor hlanes hsalt =>
      exact scryptOf?_eq_some hlength hrows hfactor hlanes hsalt
    | pbkdf2 => cases hscrypt

theorem pbkdf2Of?_eq_some_iff :
    pbkdf2Of? members = some derivation ↔
      Holds members derivation ∧ isScrypt derivation = false := by
  constructor
  · intro h
    simp only [pbkdf2Of?, Option.bind_eq_bind, Option.bind_eq_some_iff, word64?_eq_some_iff,
      word32?_eq_some_iff, string?_eq_some_iff] at h
    obtain ⟨_, hiterations, iterations, rfl, _, hlength, length, rfl, _, hfunction, function, rfl,
      _, hsalt, salt, rfl, hderivation⟩ := h
    obtain rfl := Option.some.inj hderivation
    exact ⟨.pbkdf2 hiterations hlength hfunction hsalt, rfl⟩
  · rintro ⟨hholds, hscrypt⟩
    cases hholds with
    | scrypt => cases hscrypt
    | pbkdf2 hiterations hlength hfunction hsalt =>
      exact pbkdf2Of?_eq_some hiterations hlength hfunction hsalt

/-- PBKDF2 is only told where the members do not hold the parameters of scrypt. -/
theorem derivationOf?_eq_some_iff :
    derivationOf? (.object members) = some derivation ↔
      Holds members derivation ∧
        (isScrypt derivation = false → ∀ other, Holds members other → isScrypt other = false) := by
  have hnone : scryptOf? members = none ↔
      ∀ other, Holds members other → isScrypt other = false := by
    simp [Option.eq_none_iff_forall_ne_some, scryptOf?_eq_some_iff]
  cases hfirst : scryptOf? members with
  | some first =>
    have htold : derivationOf? (.object members) = some first := by
      rw [derivationOf?, hfirst]
      rfl
    obtain ⟨hholds, hscrypt⟩ := scryptOf?_eq_some_iff.mp hfirst
    rw [htold, Option.some.injEq]
    constructor
    · rintro rfl
      exact ⟨hholds, fun hother => absurd hscrypt (by simp [hother])⟩
    · rintro ⟨hderivation, hall⟩
      cases hkind : isScrypt derivation with
      | true =>
        have hsame := scryptOf?_eq_some_iff.mpr ⟨hderivation, hkind⟩
        exact Option.some.inj (hfirst.symm.trans hsame)
      | false => exact absurd (hall hkind first hholds) (by simp [hscrypt])
  | none =>
    have htold : derivationOf? (.object members) = pbkdf2Of? members := by
      rw [derivationOf?, hfirst]
      rfl
    rw [htold, pbkdf2Of?_eq_some_iff]
    constructor
    · rintro ⟨hholds, hkind⟩
      exact ⟨hholds, fun _ => hnone.mp hfirst⟩
    · rintro ⟨hholds, -⟩
      exact ⟨hholds, hnone.mp hfirst derivation hholds⟩

/-! ### Writing and reading -/

variable {fs fs' : FileSystem} {calls : List Call} {source path : Path} {keystore : Keystore}

/-- The keystore is what is fetched from there: every machine in memory fetches it, and where a file
may turn out to be unreadable there is no other outcome than that. -/
structure IsFetchedFrom (keystore : Keystore) (fs : FileSystem) (path : Path) : Prop where
  value_eq : ∀ m : Machine, m.files = fs →
    Submission.refusing.value (fetch path).run m = .ok keystore
  ok_or_io : ∀ (calls : List Call) (r : Except Error Keystore) (fs' : FileSystem),
    (fetch path).Yields FileSystem.rule fs calls r fs' →
      r = .ok keystore ∨ ∃ cause, r = .error (.io path cause)

/-- Writes what one keystore file tells into another, or into the same. -/
def copy (source path : Path) : Action Error Unit := do
  save path (← fetch source)

theorem isFetchedFrom_of_tells (h : Workspace.Tells fs read path keystore) :
    keystore.IsFetchedFrom fs path := by
  constructor
  · rintro m rfl
    exact Machine.value_eq_of_yields (yields_fetch_of_tells h)
  · intro calls r fs' hfetch
    rcases cases_of_yields_fetch hfetch with hio | ⟨bytes, text, ⟨-, hread⟩, htext, rfl⟩
    · exact .inr hio
    · left
      obtain ⟨bytes', text', hread', htext', hkeystore⟩ := h
      obtain rfl := Except.ok.inj (hread.symm.trans hread')
      obtain rfl := Option.some.inj (htext.symm.trans htext')
      rw [hkeystore]
      rfl

/-- The file is the one that is written for the keystore, byte by byte. -/
def IsWrittenTo (keystore : Keystore) (fs : FileSystem) (path : Path) : Prop :=
  fs.read path = .ok (Bytes.ofText keystore.text)

theorem isWrittenTo_of_save
    (h : (save path keystore).Yields FileSystem.rule fs calls (.ok ()) fs') :
    keystore.IsWrittenTo fs' path :=
  (retains_of_save h).2 rfl

theorem IsWrittenTo.tells (h : keystore.IsWrittenTo fs path) :
    Workspace.Tells fs read path keystore :=
  ⟨_, _, h, Bytes.toText?_ofText _, read_text keystore⟩

/-- A copy is written for the keystore that the source tells. -/
theorem exists_isWrittenTo_of_copy
    (h : (copy source path).Yields FileSystem.rule fs calls (.ok ()) fs') :
    ∃ keystore, Workspace.Tells fs read source keystore ∧ keystore.IsWrittenTo fs' path := by
  rcases Action.yields_bind.mp h with ⟨_, -, he⟩ | ⟨keystore, _, m, _, hfetch, hsave, -⟩
  · cases he
  exact ⟨keystore, tells_of_yields_fetch hfetch fun _ h => h.2, isWrittenTo_of_save hsave⟩

/-- The file is copied over itself any number of times. -/
inductive Rounds (path : Path) : FileSystem → FileSystem → Prop
  | none (fs : FileSystem) : Rounds path fs fs
  | next {fs fs' fs'' : FileSystem} {calls : List Call} :
      (copy path path).Yields FileSystem.rule fs calls (.ok ()) fs' → Rounds path fs' fs'' →
      Rounds path fs fs''

theorem IsWrittenTo.of_copy_self (h : keystore.IsWrittenTo fs path)
    (hcopy : (copy path path).Yields FileSystem.rule fs calls (.ok ()) fs') :
    keystore.IsWrittenTo fs' path := by
  obtain ⟨other, htold, hwritten⟩ := exists_isWrittenTo_of_copy hcopy
  obtain rfl := h.tells.unique htold
  exact hwritten

theorem IsWrittenTo.of_rounds (h : keystore.IsWrittenTo fs path) (hrounds : Rounds path fs fs') :
    keystore.IsWrittenTo fs' path := by
  induction hrounds with
  | none => exact h
  | next hcopy _ ih => exact ih (h.of_copy_self hcopy)

/-- However often the file is copied over itself, its text stays and is fetched as the keystore. -/
def Settles (keystore : Keystore) (fs : FileSystem) (path : Path) : Prop :=
  ∀ fs', Rounds path fs fs' → fs'.read path = fs.read path ∧ keystore.IsFetchedFrom fs' path

theorem IsWrittenTo.settles (h : keystore.IsWrittenTo fs path) : keystore.Settles fs path := by
  intro fs' hrounds
  have hwritten := h.of_rounds hrounds
  exact ⟨hwritten.trans h.symm, isFetchedFrom_of_tells hwritten.tells⟩

/-- A keystore file that is written is fetched as the keystore it was written for, and a copy of any
file that can be read, however that is written, as the keystore that the file tells; in both cases
further copies leave the text as it is. Which derivation a file tells is decided by the members of
its parameters: PBKDF2 only if they are not those of scrypt. -/
theorem fetch_of_save (path : Path) :
    (∀ (keystore : Keystore) (fs fs' : FileSystem) (calls : List Call),
      (save path keystore).Yields FileSystem.rule fs calls (.ok ()) fs' →
        keystore.Settles fs' path) ∧
    (∀ (source : Path) (fs fs' : FileSystem) (calls : List Call),
      (copy source path).Yields FileSystem.rule fs calls (.ok ()) fs' →
        ∃ keystore, Workspace.Tells fs read source keystore ∧ keystore.Settles fs' path) ∧
    ∀ (members : Members) (derivation : Derivation),
      derivationOf? (.object members) = some derivation ↔
        Holds members derivation ∧ (isScrypt derivation = false →
          ∀ other, Holds members other → isScrypt other = false) := by
  refine ⟨fun _ _ _ _ hsave => (isWrittenTo_of_save hsave).settles, ?_,
    fun _ _ => derivationOf?_eq_some_iff⟩
  intro source fs fs' calls hcopy
  obtain ⟨keystore, htold, hwritten⟩ := exists_isWrittenTo_of_copy hcopy
  exact ⟨keystore, htold, hwritten.settles⟩

/-- A file with marks in front, the other spelling of a key, no identifier, a member that is not
known, and parameters of both kinds. -/
def foreign : String :=
  "\ufeff\ufeff\x7b\"version\":3,\"Crypto\":\x7b\"kdf\":\"?\",\"cipher\":\"c\",\"mac\":\"m\"," ++
    "\"kdfparams\":\x7b\"c\":1,\"prf\":\"f\",\"salt\":\"s\",\"n\":2,\"r\":8,\"p\":1," ++
    "\"dklen\":32\x7d,\"ciphertext\":\"t\",\"cipherparams\":\x7b\"iv\":\"i\"\x7d\x7d," ++
    "\"more\":[],\"address\":\"a\"\x7d"

theorem read_foreign : read foreign =
    .ok ⟨"a", ⟨"c", "i", "t", "?", .scrypt 32 2 8 1 "s", "m"⟩, "", 3, none⟩ := by
  -- So that the text is taken apart only once.
  rw [read, withoutMarks, readAs, String.toList_ofList]
  decide +kernel

/-- That file is copied on a file system that holds nothing else, and settles as what it tells. -/
theorem fetch_of_save_foreign : ∃ fs fs' : FileSystem,
    fs.read "/old.json" = .ok (Bytes.ofText foreign) ∧
    (copy "/old.json" "/key.json").Yields FileSystem.rule fs [] (.ok ()) fs' ∧
    Settles ⟨"a", ⟨"c", "i", "t", "?", .scrypt 32 2 8 1 "s", "m"⟩, "", 3, none⟩ fs'
      "/key.json" := by
  let fs : FileSystem :=
    FileSystem.put ⟨[], .root⟩ (Place.root.child "old.json") (.file (Bytes.ofText foreign))
  let keystore : Keystore := ⟨"a", ⟨"c", "i", "t", "?", .scrypt 32 2 8 1 "s", "m"⟩, "", 3, none⟩
  let fs' := fs.put (Place.root.child "key.json") (.file (Bytes.ofText keystore.text))
  have hread : fs.read "/old.json" = .ok (Bytes.ofText foreign) := by rfl
  have hmake : fs.makeDirectories "/" = (.ok (), fs) := by rfl
  have hwrite : fs.write "/key.json" (Bytes.ofText keystore.text) = .ok fs' := by rfl
  have hfetch : (fetch "/old.json").Yields FileSystem.rule fs [] (.ok keystore) fs := by
    refine Action.yields_host_bind.mpr ⟨.ok (Bytes.ofText foreign), fs, ⟨rfl, hread⟩, ?_⟩
    simp only [Bytes.toText?_ofText, read_foreign]
    exact .refl _ _
  have hcopy : (copy "/old.json" "/key.json").Yields FileSystem.rule fs [] (.ok ()) fs' := by
    refine hfetch.bind_silent ?_
    refine Action.yields_host_bind.mpr ⟨(.ok () : Except IoError Unit), fs, hmake, ?_⟩
    exact Action.yields_host_bind.mpr ⟨(.ok () : Except IoError Unit), fs', hwrite, .refl _ _⟩
  obtain ⟨other, htold, hsettles⟩ := (fetch_of_save "/key.json").2.1 _ _ _ _ hcopy
  have hsame : keystore = other :=
    Workspace.Tells.unique ⟨_, _, hread, Bytes.toText?_ofText _, read_foreign⟩ htold
  subst hsame
  exact ⟨fs, fs', hread, hcopy, hsettles⟩

end ScoreDeploy.Keystore
