import ScoreDeploy.Keystore.Basic
import ScoreDeploy.Proofs.Json.Record

/-!
# Reading keystore files back

The text of a keystore file holds every part of it in the form that is asked for, so that reading it
gives the same keystore.
-/

namespace ScoreDeploy.Keystore

open Json Option

variable {members : Members} {length rows : UInt64} {iterations blockFactor lanes : UInt32}
variable {function salt : String}

/-! ### Parts -/

theorem word64?_ofWord (n : UInt64) : word64? (.ofWord n) = some n := by
  have hrange : (0 : Int) ≤ n.toNat ∧ (n.toNat : Int) < UInt64.size :=
    ⟨Int.natCast_nonneg _, Int.ofNat_lt.mpr n.toNat_lt⟩
  rw [word64?, ofWord, naturalBelow?, if_pos hrange, Option.map_some, Int.toNat_natCast,
    UInt64.ofNat_toNat]

theorem word32?_ofWord (n : UInt32) : word32? (.ofWord n.toUInt64) = some n := by
  have hrange : (0 : Int) ≤ n.toUInt64.toNat ∧ (n.toUInt64.toNat : Int) < UInt32.size :=
    ⟨Int.natCast_nonneg _, Int.ofNat_lt.mpr (UInt32.toNat_toUInt64 n ▸ n.toNat_lt)⟩
  rw [word32?, ofWord, naturalBelow?, if_pos hrange, Option.map_some, Int.toNat_natCast,
    UInt32.toNat_toUInt64, UInt32.ofNat_toNat]

theorem scryptOf?_eq_some (hlength : members.single? "dklen" = some (.ofWord length))
    (hrows : members.single? "n" = some (.ofWord rows))
    (hfactor : members.single? "r" = some (.ofWord blockFactor.toUInt64))
    (hlanes : members.single? "p" = some (.ofWord lanes.toUInt64))
    (hsalt : members.single? "salt" = some (.string salt)) :
    scryptOf? members = some (.scrypt length rows blockFactor lanes salt) := by
  refine bind_eq_some_iff.mpr ⟨_, hlength, bind_eq_some_iff.mpr ⟨_, word64?_ofWord length, ?_⟩⟩
  refine bind_eq_some_iff.mpr ⟨_, hrows, bind_eq_some_iff.mpr ⟨_, word64?_ofWord rows, ?_⟩⟩
  refine bind_eq_some_iff.mpr ⟨_, hfactor, bind_eq_some_iff.mpr ⟨_, word32?_ofWord blockFactor, ?_⟩⟩
  refine bind_eq_some_iff.mpr ⟨_, hlanes, bind_eq_some_iff.mpr ⟨_, word32?_ofWord lanes, ?_⟩⟩
  exact bind_eq_some_iff.mpr ⟨_, hsalt, rfl⟩

theorem scryptOf?_eq_none (hrows : members.single? "n" = none) : scryptOf? members = none := by
  refine bind_eq_none_iff.mpr fun _ _ => bind_eq_none_iff.mpr fun _ _ => ?_
  exact bind_eq_none_iff.mpr fun _ hsome => nomatch hrows.symm.trans hsome

theorem pbkdf2Of?_eq_some
    (hiterations : members.single? "c" = some (.ofWord iterations.toUInt64))
    (hlength : members.single? "dklen" = some (.ofWord length))
    (hfunction : members.single? "prf" = some (.string function))
    (hsalt : members.single? "salt" = some (.string salt)) :
    pbkdf2Of? members = some (.pbkdf2 iterations length function salt) := by
  refine bind_eq_some_iff.mpr ⟨_, hiterations, ?_⟩
  refine bind_eq_some_iff.mpr ⟨_, word32?_ofWord iterations, ?_⟩
  refine bind_eq_some_iff.mpr ⟨_, hlength, bind_eq_some_iff.mpr ⟨_, word64?_ofWord length, ?_⟩⟩
  refine bind_eq_some_iff.mpr ⟨_, hfunction, bind_eq_some_iff.mpr ⟨_, rfl, ?_⟩⟩
  exact bind_eq_some_iff.mpr ⟨_, hsalt, rfl⟩

/-- The parameters tell by their form which derivation they belong to. -/
theorem derivationOf?_derivationJson (derivation : Derivation) :
    derivationOf? (derivationJson derivation) = some derivation := by
  cases derivation with
  | scrypt length rows blockFactor lanes salt =>
    rw [derivationJson, derivationOf?, scryptOf?_eq_some rfl rfl rfl rfl rfl]
    rfl
  | pbkdf2 iterations length function salt =>
    rw [derivationJson, derivationOf?, scryptOf?_eq_none rfl, pbkdf2Of?_eq_some rfl rfl rfl rfl]
    rfl

theorem sealedOf?_sealedJson (contents : Sealed) :
    sealedOf? (sealedJson contents) = some contents :=
  -- All but the derivation is found by looking up literal keys.
  bind_eq_some_iff.mpr ⟨_, derivationOf?_derivationJson contents.derivation, rfl⟩

theorem coinType_toJson (keystore : Keystore) :
    (keystore.toJson.member? "coinType").bind string? = keystore.coinType := by
  obtain ⟨_, _, _, _, coinType⟩ := keystore
  cases coinType with
  | none => rfl
  | some name => rfl

theorem ofJson?_toJson (keystore : Keystore) : ofJson? keystore.toJson = some keystore := by
  refine bind_eq_some_iff.mpr ⟨_, sealedOf?_sealedJson keystore.contents, ?_⟩
  refine bind_eq_some_iff.mpr ⟨_, rfl, ?_⟩
  refine bind_eq_some_iff.mpr ⟨_, word32?_ofWord keystore.version, ?_⟩
  rw [coinType_toJson]
  rfl

/-! ### Forms -/

theorem readsBack_derivationJson (derivation : Derivation) (depth : Nat) :
    ReadsBack 1 (depth + 1) (.passing fun value => (derivationOf? value).isSome)
      (derivationJson derivation) := by
  have hword : ∀ n : UInt64, Fits Number.IsToken depth (.ofWord n) :=
    fun n => .number depth (isToken_integer _)
  apply readsBack_passing
  · apply rereads
    cases derivation with
    | scrypt length rows blockFactor lanes salt =>
      refine .object ?_
      simp only [List.forall_mem_cons]
      exact ⟨hword _, hword _, hword _, hword _, .string _ _, List.forall_mem_nil _⟩
    | pbkdf2 iterations length function salt =>
      refine .object ?_
      simp only [List.forall_mem_cons]
      exact ⟨hword _, hword _, .string _ _, .string _ _, List.forall_mem_nil _⟩
  · rw [derivationOf?_derivationJson]
    rfl

/-- The fields of the encrypted part. -/
def sealedFields : List (Label × Shape) :=
  [(⟨"cipher", [], true⟩, .text),
    (⟨"cipherparams", [], true⟩, .record [(⟨"iv", [], true⟩, .text)]),
    (⟨"ciphertext", [], true⟩, .text), (⟨"kdf", [], true⟩, .text),
    (⟨"kdfparams", [], true⟩, .passing fun value => (derivationOf? value).isSome),
    (⟨"mac", [], true⟩, .text)]

/-- The fields of a keystore file. -/
def fields : List (Label × Shape) :=
  [(⟨"address", [], true⟩, .text), (⟨"crypto", ["Crypto"], true⟩, sealedShape),
    (⟨"id", [], false⟩, .text), (⟨"version", [], true⟩, .natural UInt32.size),
    (⟨"coinType", [], false⟩, .optional .text)]

theorem readsBack_cipherparams (iv : String) (depth : Nat) :
    ReadsBack 3 (depth + 1) (.record [(⟨"iv", [], true⟩, .text)])
      (.object [("iv", .string iv)]) := by
  have hiv : IsReadable [(⟨"iv", [], true⟩, .text)] false 1 depth ("iv", .string iv) :=
    @IsReadable.field _ _ _ _ ⟨"iv", [], true⟩ _ _ rfl (readsBack_text iv)
  exact readsBack_record (List.forall_mem_singleton.mpr hiv) (List.pairwise_singleton _ _) rfl

theorem readsBack_sealedJson (contents : Sealed) (depth : Nat) :
    ReadsBack 10 (depth + 2) sealedShape (sealedJson contents) := by
  have hfield : ∀ (label : Label) (shape : Shape) (value : Json),
      sealedFields.find? (fun f => f.1.accepts label.name) = some (label, shape) →
        ReadsBack 3 (depth + 1) shape value →
          IsReadable sealedFields false 3 (depth + 1) (label.name, value) :=
    fun _ _ _ hfind hback => .field hfind hback
  have htext : ∀ s, ReadsBack 3 (depth + 1) .text (.string s) :=
    fun s => (readsBack_text s).mono (by decide)
  have hderivation := readsBack_derivationJson contents.derivation depth
  have hmembers : ∀ m ∈ [("cipher", .string contents.cipher),
      ("cipherparams", .object [("iv", .string contents.iv)]),
      ("ciphertext", .string contents.ciphertext), ("kdf", .string contents.derivationName),
      ("kdfparams", derivationJson contents.derivation), ("mac", .string contents.mac)],
        IsReadable sealedFields false 3 (depth + 1) m := by
    simp only [List.forall_mem_cons]
    exact ⟨hfield ⟨"cipher", [], true⟩ _ _ rfl (htext _),
      hfield ⟨"cipherparams", [], true⟩ _ _ rfl (readsBack_cipherparams contents.iv depth),
      hfield ⟨"ciphertext", [], true⟩ _ _ rfl (htext _), hfield ⟨"kdf", [], true⟩ _ _ rfl (htext _),
      hfield ⟨"kdfparams", [], true⟩ _ _ rfl (hderivation.mono (by decide)),
      hfield ⟨"mac", [], true⟩ _ _ rfl (htext _), List.forall_mem_nil _⟩
  exact readsBack_record hmembers (by simp) rfl

theorem readsBack_toJson (keystore : Keystore) : ReadsBack 16 maxDepth shape keystore.toJson := by
  have hfield : ∀ (label : Label) (shape : Shape) (value : Json),
      fields.find? (fun f => f.1.accepts label.name) = some (label, shape) →
        ReadsBack 10 126 shape value → IsReadable fields false 10 126 (label.name, value) :=
    fun _ _ _ hfind hback => .field hfind hback
  have htext : ∀ s, ReadsBack 10 126 .text (.string s) :=
    fun s => (readsBack_text s).mono (by decide)
  have hversion : ReadsBack 1 126 (.natural UInt32.size) (.ofWord keystore.version.toUInt64) :=
    readsBack_natural ⟨Int.natCast_nonneg _,
      Int.ofNat_lt.mpr (UInt32.toNat_toUInt64 keystore.version ▸ keystore.version.toNat_lt)⟩
  have hknown : ∀ m ∈ [("address", .string keystore.address),
      ("crypto", sealedJson keystore.contents), ("id", .string keystore.id),
      ("version", .ofWord keystore.version.toUInt64)], IsReadable fields false 10 126 m := by
    simp only [List.forall_mem_cons]
    exact ⟨hfield ⟨"address", [], true⟩ _ _ rfl (htext _),
      hfield ⟨"crypto", ["Crypto"], true⟩ _ _ rfl (readsBack_sealedJson keystore.contents 124),
      hfield ⟨"id", [], false⟩ _ _ rfl (htext _),
      hfield ⟨"version", [], true⟩ _ _ rfl (hversion.mono (by decide)), List.forall_mem_nil _⟩
  rw [toJson]
  cases keystore.coinType with
  | none => exact (readsBack_record hknown (by simp) rfl).mono (Nat.le_succ 15)
  | some name =>
    have hcoin := hfield ⟨"coinType", [], false⟩ _ _ rfl
      ((readsBack_optional_text name).mono (by decide))
    exact readsBack_record (List.forall_mem_append.mpr
      ⟨hknown, List.forall_mem_singleton.mpr hcoin⟩) (by simp) rfl

/-! ### Texts -/

/-- A keystore is read from its text as it was. -/
theorem read_text (keystore : Keystore) : read keystore.text = .ok keystore := by
  have hmarks : withoutMarks keystore.text = keystore.toJson.pretty := by
    have hcs : keystore.toJson.pretty.toList = '\x7b' :: _ := prettyChars_object_cons 0 _ _
    rw [withoutMarks, text, hcs, List.dropWhile_cons_of_neg (by decide), ← hcs,
      String.ofList_toList]
  have hreads : readAs shape keystore.toJson.pretty = .ok keystore.toJson :=
    readAs_pretty (readsBack_toJson keystore) (by omega)
  rw [read, hmarks, hreads, Except.ok_bind, ofJson?_toJson]
  rfl

end ScoreDeploy.Keystore
