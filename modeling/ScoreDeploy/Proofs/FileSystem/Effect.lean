import ScoreDeploy.Machine
import ScoreDeploy.Proofs.FileSystem.Tree
import ScoreDeploy.Proofs.Questions

/-!
# Machines and their files

`FileSystem.rule` is all that is relied on about machines where files are concerned. Any operation
may fail at any time and for any reason. If it succeeds it does what it should, and if it fails, or
if the machine stops in the middle of it, a part of it may be done; only a rename is done at once or
not at all.
-/

namespace ScoreDeploy

namespace FileSystem

/-- What an operation may have done when it fails or is broken off. -/
def Partly : Host.Request → FileSystem → FileSystem → Prop
  | .makeDirectories path, fs, fs' => MakesSome path fs fs'
  | .write path content, fs, fs' =>
    fs' = fs ∨ ∃ count, fs.write path (content.take count) = .ok fs'
  | _, fs, fs' => fs' = fs

/-- What machines do to files and with them. -/
def rule : MachineRule FileSystem := fun r fs reply fs' =>
  match r, reply with
  | .read path, .ok content => fs' = fs ∧ fs.read path = .ok content
  | .makeDirectories path, .ok () => fs.makeDirectories path = (.ok (), fs')
  | .write path content, .ok () => fs.write path content = .ok fs'
  | .rename old new, .ok () => fs.rename old new = .ok fs'
  | r, _ => Partly r fs fs'

theorem keepsLooking_rule : rule.KeepsLooking := by
  intro r fs reply fs' hlooks h
  cases r with
  | read path => cases reply with
    | ok content => exact h.1
    | error e => exact h
  | makeDirectories path => exact hlooks.elim
  | write path content => exact hlooks.elim
  | rename old new => exact hlooks.elim
  | _ => exact h

section

variable {fs fs' : FileSystem} {path : Path} {content : Bytes} {reply : Except IoError Unit}
variable {touched way : Place → Prop}

/-- Whether or not the directories can be made, some of them are. -/
theorem makesSome_of_rule (h : rule (.makeDirectories path) fs reply fs') :
    MakesSome path fs fs' := by
  cases reply with
  | ok _ =>
    have hsome := makesSome_makeDirectories fs path
    rwa [show fs.makeDirectories path = (.ok (), fs') from h] at hsome
  | error e => exact h

/-- Whether or not a file can be written, nothing else changes. -/
theorem IsTree.changes_of_rule_write (htree : fs.IsTree)
    (h : rule (.write path content) fs reply fs') :
    fs'.IsTree ∧ Changes (· = path.placeFrom fs.current) way fs fs' ∧
      (reply = .ok () → fs'.content? (path.placeFrom fs.current) = some content) := by
  cases reply with
  | ok _ =>
    obtain ⟨htree', hchanges, hentry⟩ := htree.changes_write h
    exact ⟨htree', hchanges, fun _ => by rw [content?, hentry]⟩
  | error e =>
    rcases h with rfl | ⟨count, hwrite⟩
    · exact ⟨htree, .refl _ _ _, by rintro ⟨⟩⟩
    · obtain ⟨htree', hchanges, -⟩ := htree.changes_write hwrite
      exact ⟨htree', hchanges, by rintro ⟨⟩⟩

end

/-- An operation may fail with any part of it done. -/
theorem exists_rule_of_partly {r : Host.Request} {fs fs' : FileSystem} (h : Partly r fs fs') :
    ∃ reply, rule r fs reply fs' := by
  cases r with
  | read path => exact ⟨.error .notFound, h⟩
  | makeDirectories path => exact ⟨.error .notFound, h⟩
  | write path content => exact ⟨.error .notFound, h⟩
  | rename old new => exact ⟨.error .notFound, h⟩
  | _ => exact ⟨Host.someReply _, h⟩

theorem mayIdle_rule : rule.MayIdle := by
  intro r fs
  refine exists_rule_of_partly ?_
  cases r with
  | makeDirectories path => exact .inl rfl
  | write path content => exact .inl rfl
  | _ => rfl

/-- What can be seen of the files at a point of a run, between two operations or within one. -/
def Seen {α : Type} (q : Program effects α) (fs fs' : FileSystem) : Prop :=
  fs' = fs ∨ ∃ (r : Host.Request) (next : Host.Reply r → Program effects α),
    q = .ask (Effect.host r) next ∧ Partly r fs fs'

/-- A machine that is broken off within an operation could as well have failed there. -/
theorem Seen.exists_reaches {α : Type} {p q : Program effects α} {fs fs₁ fs' : FileSystem}
    {calls : List Call} (hseen : Seen q fs₁ fs') (h : Reaches rule p fs calls q fs₁) :
    ∃ q', Reaches rule p fs calls q' fs' := by
  rcases hseen with rfl | ⟨r, next, rfl, hpartly⟩
  · exact ⟨q, h⟩
  · obtain ⟨reply, hrule⟩ := exists_rule_of_partly hpartly
    have hlast : Reaches rule (.ask (Effect.host r) next) fs₁ [] (next reply) fs' :=
      .host hrule (.refl _ _)
    exact ⟨_, (List.append_nil calls) ▸ h.trans hlast⟩

/-- Nothing is going on any more at the end. -/
theorem Seen.eq_of_done {α : Type} {a : α} {fs fs' : FileSystem} (h : Seen (.done a) fs fs') :
    fs' = fs := by
  rcases h with rfl | ⟨_, _, hask, -⟩
  · rfl
  · cases hask

end FileSystem

end ScoreDeploy
