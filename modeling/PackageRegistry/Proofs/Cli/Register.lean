import Mathlib
import PackageRegistry.Cli.Commands
/-!
# When `package register` contacts the registry

`package register` sends its one request exactly when the name is valid, the database opens,
the package, owner and history are read, the version has a stored form, and the first stored
version not a different one is the same (`runRegister_contacts_registry`). Every other run halts
before the registry, leaving the requests as they were. `Quiet` runs leave the requests alone
and only crash; `HaltsRefused` runs halt with status 1 or 2 or a crash.
-/

namespace PackageRegistry.Cli

open PackageRegistry.Store PackageRegistry.Package PackageRegistry.Text

/-! ## Runs that leave the requests alone -/

/-- The transcript a run leaves, whether it returns or halts. -/
def runTranscript {α : Type} : EStateM.Result Halt Transcript α → Transcript
  | .ok _ t => t
  | .error _ t => t

/-- The run leaves the requests alone, and halts only by crashing. -/
def Quiet {α : Type} (x : Run α) : Prop :=
  ∀ t, match x.run t with
    | .ok _ t' => t'.requests = t.requests
    | .error h t' => t'.requests = t.requests ∧ ∃ c m, h = .crash c m

/-- The run leaves the requests alone, however it ends. -/
def KeepsRequests {α : Type} (x : Run α) : Prop :=
  ∀ t, (runTranscript (x.run t)).requests = t.requests

/-- The run halts with status 1 or 2 or a crash, leaving the requests alone. -/
def HaltsRefused {α : Type} (x : Run α) : Prop :=
  ∀ t, ∃ h t', x.run t = .error h t' ∧ t'.requests = t.requests ∧
    (h = .exit 1 ∨ h = .exit 2 ∨ ∃ c m, h = .crash c m)

section Runs

variable {α β : Type}

/-- A pure value is quiet. -/
theorem quiet_pure (a : α) : Quiet (pure a : Run α) := fun _ => rfl

/-- After a step that succeeds, the run goes on with its value from the transcript it left. -/
theorem run_bind_of_ok {x : Run α} {f : α → Run β} {t t' : Transcript} {a : α}
    (h : x.run t = .ok a t') : (x >>= f).run t = (f a).run t' := by
  change EStateM.bind x f t = _
  simp only [EStateM.bind]
  rw [show x t = .ok a t' from h]
  rfl

/-- A step that halts halts the run, with its transcript. -/
theorem run_bind_of_error {x : Run α} {f : α → Run β} {t t' : Transcript} {e : Halt}
    (h : x.run t = .error e t') : (x >>= f).run t = .error e t' := by
  change EStateM.bind x f t = _
  simp only [EStateM.bind]
  rw [show x t = .error e t' from h]

/-- Two quiet steps make a quiet run. -/
theorem quiet_bind {x : Run α} {f : α → Run β} (hx : Quiet x) (hf : ∀ a, Quiet (f a)) :
    Quiet (x >>= f) := by
  intro t
  have h := hx t
  cases hrun : x.run t with
  | ok a t' =>
    rw [hrun] at h
    have hf' := hf a t'
    rw [run_bind_of_ok hrun]
    split at hf' <;> simp_all
  | error e t' =>
    rw [hrun] at h
    rw [run_bind_of_error hrun]
    exact h

/-- A loop of quiet steps is quiet. -/
theorem quiet_forIn {γ : Type} (xs : List γ) (b : β) (f : γ → β → Run (ForInStep β))
    (hf : ∀ c b, Quiet (f c b)) : Quiet (forIn xs b f) := by
  induction xs generalizing b with
  | nil => exact quiet_pure b
  | cons c cs ih =>
    rw [List.forIn_cons]
    refine quiet_bind (hf c b) fun step => ?_
    cases step with
    | done b' => exact quiet_pure b'
    | yield b' => exact ih b'

/-- Changing the transcript but not its requests is quiet. -/
theorem quiet_modify {g : Transcript → Transcript} (h : ∀ t, (g t).requests = t.requests) :
    Quiet (modify g : Run Unit) := fun t => h t

/-- A crash is quiet: it halts only by crashing. -/
theorem quiet_crash (c m : String) : Quiet (crash c m : Run α) := fun _ => ⟨rfl, c, m, rfl⟩

/-- Printing markup is quiet. -/
theorem quiet_printMarkup (toErr : Bool) (markup : String) (emoji : Bool) :
    Quiet (printMarkup toErr markup emoji) := by
  have hout : ∀ text, Quiet (writeOut text) := fun _ => quiet_modify fun _ => rfl
  have herr : ∀ text, Quiet (writeErr text) := fun _ => quiet_modify fun _ => rfl
  unfold printMarkup
  refine quiet_bind (quiet_forIn _ _ _ fun w _ => quiet_bind (herr _) fun _ => quiet_pure _)
    fun _ => ?_
  split
  · split
    · exact herr _
    · exact hout _
  · exact quiet_crash _ _

/-- Printing an error is quiet. -/
theorem quiet_error (message hint : String) : Quiet (error message hint) := by
  unfold error
  refine quiet_bind (quiet_printMarkup _ _ _) fun _ => ?_
  split
  · exact quiet_printMarkup _ _ _
  · exact quiet_pure _

/-- A run halts refused once its first step does. -/
theorem haltsRefused_bind {x : Run α} {f : α → Run β} (hx : HaltsRefused x) :
    HaltsRefused (x >>= f) := by
  intro t
  obtain ⟨h, t', hrun, hreq, hcode⟩ := hx t
  exact ⟨h, t', run_bind_of_error hrun, hreq, hcode⟩

/-- A quiet run, then one that halts refused, halts refused. -/
theorem haltsRefused_quiet_bind {x : Run α} {f : α → Run β} (hx : Quiet x)
    (hf : ∀ a, HaltsRefused (f a)) : HaltsRefused (x >>= f) := by
  intro t
  have h := hx t
  cases hrun : x.run t with
  | ok a t' =>
    rw [hrun] at h
    obtain ⟨e, t'', hrun', hreq, hcode⟩ := hf a t'
    exact ⟨e, t'', (run_bind_of_ok hrun).trans hrun', hreq.trans h, hcode⟩
  | error e t' =>
    rw [hrun] at h
    obtain ⟨hreq, c, m, rfl⟩ := h
    exact ⟨_, t', run_bind_of_error hrun, hreq, .inr (.inr ⟨c, m, rfl⟩)⟩

/-- A crash halts refused. -/
theorem haltsRefused_crash (c m : String) : HaltsRefused (crash c m : Run α) :=
  fun t => ⟨_, t, rfl, rfl, .inr (.inr ⟨c, m, rfl⟩)⟩

/-- Every failure but a VCS registry error halts refused. -/
theorem haltsRefused_fail {f : Failure} (hf : ∀ m, f ≠ .vcs m) : HaltsRefused (fail f : Run α) := by
  cases f with
  | invalid m =>
    exact haltsRefused_quiet_bind (quiet_error _ _) fun _ t => ⟨_, t, rfl, rfl, .inl rfl⟩
  | database m =>
    exact haltsRefused_quiet_bind (quiet_error _ _) fun _ t => ⟨_, t, rfl, rfl, .inr (.inl rfl)⟩
  | vcs m => exact absurd rfl (hf m)
  | unexpected c m => exact haltsRefused_crash c m

/-- A quiet step keeps the requests sent. -/
theorem KeepsRequests.of_quiet {x : Run α} (hx : Quiet x) : KeepsRequests x := by
  intro t
  have h := hx t
  cases hrun : x.run t with
  | ok a t' =>
    rw [hrun] at h
    exact h
  | error e t' =>
    rw [hrun] at h
    exact h.1

/-- Two steps that keep the requests make a run that keeps them. -/
theorem keepsRequests_bind {x : Run α} {f : α → Run β} (hx : KeepsRequests x)
    (hf : ∀ a, KeepsRequests (f a)) : KeepsRequests (x >>= f) := by
  intro t
  have h := hx t
  cases hrun : x.run t with
  | ok a t' =>
    rw [hrun] at h
    rw [run_bind_of_ok hrun]
    exact (hf a t').trans h
  | error e t' =>
    rw [hrun] at h
    rw [run_bind_of_error hrun]
    exact h

/-- A failure keeps the requests sent. -/
theorem keepsRequests_fail (f : Failure) : KeepsRequests (fail f : Run α) := by
  have hexit : ∀ code, KeepsRequests (exitWith code : Run α) := fun _ _ => rfl
  cases f with
  | invalid m => exact keepsRequests_bind (.of_quiet (quiet_error _ _)) fun _ => hexit 1
  | database m => exact keepsRequests_bind (.of_quiet (quiet_error _ _)) fun _ => hexit 2
  | vcs m => exact keepsRequests_bind (.of_quiet (quiet_error _ _)) fun _ => hexit 4
  | unexpected c m => exact .of_quiet (quiet_crash c m)

end Runs

/-! ## The steps of a registration -/

/-- A failed read is never reported as the version-control host's. -/
theorem readFailure_ne_vcs (e : ReadError) (m : String) : readFailure e ≠ .vcs m := by
  unfold readFailure
  split <;> simp

/-- A database fault is never reported as the version-control host's. -/
theorem databaseFailure_ne_vcs (e : DatabaseFault) (m : String) : databaseFailure e ≠ .vcs m := by
  unfold databaseFailure
  split <;> simp

/-- A bad version is never reported as the version-control host's. -/
theorem versionFailure_ne_vcs (e : VersionError) (m : String) : versionFailure e ≠ .vcs m := by
  cases e <;> simp [versionFailure]

/-- An operation then the rest halts refused when the operation fails with other than a VCS
registry error, or the rest does. -/
theorem haltsRefused_attempt_bind {ε α β : Type} {toFailure : ε → Failure} {x : Except ε α}
    {f : α → Run β} (hne : ∀ e m, toFailure e ≠ .vcs m) (hok : ∀ a, x = .ok a → HaltsRefused (f a)) :
    HaltsRefused (attempt toFailure x >>= f) := by
  cases x with
  | error e => exact haltsRefused_bind (haltsRefused_fail (hne e))
  | ok a =>
    rw [attempt, pure_bind]
    exact hok a rfl


/-- The history check passes: stored versions up to the first not read as different from
`version`, and that one the same. -/
def FoundAmong (version : String) (stored : List String) : Prop :=
  ∃ before v after, stored = before ++ v :: after ∧
    (∀ w ∈ before, sameVersion version w = .ok false) ∧ sameVersion version v = .ok true

/-- A version is among a list when it is the same as its first, or not and among the rest. -/
theorem foundAmong_cons {version w : String} {ws : List String} :
    FoundAmong version (w :: ws) ↔
      sameVersion version w = .ok true ∨
        sameVersion version w = .ok false ∧ FoundAmong version ws := by
  constructor
  · rintro ⟨before, v, after, hsplit, hbefore, hv⟩
    cases before with
    | nil =>
      obtain ⟨rfl, -⟩ := List.cons.inj hsplit
      exact .inl hv
    | cons b bs =>
      obtain ⟨rfl, rfl⟩ := List.cons.inj hsplit
      exact .inr ⟨hbefore w List.mem_cons_self,
        bs, v, after, rfl, fun x hx => hbefore x (List.mem_cons_of_mem w hx), hv⟩
  · rintro (hw | ⟨hw, before, v, after, rfl, hbefore, hv⟩)
    · exact ⟨[], w, ws, rfl, by simp, hw⟩
    · refine ⟨w :: before, v, after, rfl, fun x hx => ?_, hv⟩
      rcases List.mem_cons.mp hx with rfl | hx
      · exact hw
      · exact hbefore x hx

/-- Searching a history gives `true` exactly when found; else `false`, or a refused halt at an
incomparable version. -/
theorem releasedAmong_cases (version : String) (stored : List String) :
    FoundAmong version stored ∧ releasedAmong version stored = pure true ∨
      ¬FoundAmong version stored ∧
        (releasedAmong version stored = pure false ∨ HaltsRefused (releasedAmong version stored)) := by
  induction stored with
  | nil =>
    refine .inr ⟨?_, .inl rfl⟩
    rintro ⟨before, v, after, hsplit, -⟩
    simp at hsplit
  | cons w ws ih =>
    have hstep : releasedAmong version (w :: ws) =
        attempt versionFailure (sameVersion version w) >>= fun found =>
          if found then pure true else releasedAmong version ws := rfl
    rw [hstep, foundAmong_cons]
    cases hsame : sameVersion version w with
    | error e =>
      exact .inr ⟨by simp, .inr (haltsRefused_bind (haltsRefused_fail (versionFailure_ne_vcs e)))⟩
    | ok found =>
      rw [attempt, pure_bind]
      cases found with
      | true => exact .inl ⟨.inl rfl, rfl⟩
      | false => simpa using ih

/-- What `package register` needs before it contacts the registry, and the request it sends: a
valid name, an open database, the package, owner and history read, a stored form of the version
asked for (else the latest), found among the history. -/
def RegisterReady (s : Session) (r : Reading) (req : Vcs.Request) : Prop :=
  ∃ reg pkg owner history version,
    validateName ((r.text? "name").getD "") = .ok () ∧
    s.world.storage.openRegistry s.settings.databaseUrl = .ok reg ∧
    reg.getPackage ((r.text? "name").getD "") = .ok pkg ∧
    reg.getUser pkg.ownerUsername = .ok owner ∧
    reg.packageVersions ((r.text? "name").getD "") = .ok history ∧
    sanitizeVersion (((r.text? "version").filter (!·.isEmpty)).getD pkg.latestVersion) =
      .ok version ∧
    FoundAmong version (history.versions.map (·.1)) ∧
    req = (registryClient s.settings).registerRequest
      { name := pkg.name, version,
        owner := ⟨owner.name.getD "", if owner.isPublicEmail then owner.email else "",
          owner.username⟩,
        visibility := if r.flag "private" then .ownerOnly else .everyone }
      ((r.file? "tarball").getD "")

/-- The version `package register` asks for: its `version` option unless absent or empty, else
the package's latest. -/
theorem requestedVersion_eq (o : Option String) (latest : String) :
    (match o with
      | some v => if v.isEmpty then latest else v
      | none => latest) = (o.filter (!·.isEmpty)).getD latest := by
  cases o with
  | none => rfl
  | some v => cases hempty : v.isEmpty <;> simp [Option.filter, hempty]

/-- Registering without a ready request halts refused, before any request. -/
theorem runRegister_haltsRefused {s : Session} {r : Reading}
    (h : ∀ req, ¬RegisterReady s r req) : HaltsRefused (runRegister s r) := by
  unfold runRegister
  cases hname : validateName ((r.text? "name").getD "") with
  | error e =>
    apply haltsRefused_bind
    cases e with
    | inl e =>
      simp only [checkName, hname]
      exact haltsRefused_crash _ _
    | inr e =>
      simp only [checkName, hname]
      exact haltsRefused_fail (by simp)
  | ok u =>
    simp only [checkName, hname, pure_bind, Session.openRegistry]
    refine haltsRefused_attempt_bind databaseFailure_ne_vcs fun reg hreg => ?_
    refine haltsRefused_attempt_bind readFailure_ne_vcs fun pkg hpkg => ?_
    refine haltsRefused_attempt_bind readFailure_ne_vcs fun owner howner => ?_
    refine haltsRefused_attempt_bind readFailure_ne_vcs fun history hhistory => ?_
    refine haltsRefused_attempt_bind versionFailure_ne_vcs fun version hversion => ?_
    have hversion' : sanitizeVersion (((r.text? "version").filter (!·.isEmpty)).getD
        pkg.latestVersion) = .ok version := by
      rw [← requestedVersion_eq]
      exact hversion
    rcases releasedAmong_cases version (history.versions.map (·.1)) with
      ⟨hfound, -⟩ | ⟨-, hrel | hrel⟩
    · exact absurd ⟨reg, pkg, owner, history, version, hname, hreg, hpkg, howner, hhistory,
        hversion', hfound, rfl⟩ (h _)
    · rw [hrel, pure_bind]
      exact haltsRefused_bind (haltsRefused_fail (readFailure_ne_vcs _))
    · exact haltsRefused_bind hrel

/-- Registering with a ready request sends it and succeeds with a message. -/
theorem runRegister_of_ready {s : Session} {r : Reading} {req : Vcs.Request}
    (h : RegisterReady s r req) :
    ∃ message, runRegister s r = (sendRequest s req Vcs.registerStatus >>= fun _ => success message) := by
  obtain ⟨reg, pkg, owner, history, version, hname, hreg, hpkg, howner, hhistory, hversion,
    hfound, rfl⟩ := h
  obtain ⟨-, hrel⟩ := (releasedAmong_cases version (history.versions.map (·.1))).resolve_right
    fun ⟨hnot, _⟩ => hnot hfound
  refine ⟨"Registered " ++ (r.text? "name").getD "" ++ "@" ++ version, ?_⟩
  unfold runRegister
  simp only [checkName, hname, pure_bind, Session.openRegistry, hreg, attempt, hpkg, howner,
    hhistory]
  refine (congrArg (· >>= _)
    (?_ : attempt versionFailure (sanitizeVersion _) = (pure version : Run String))).trans ?_
  · rw [← requestedVersion_eq] at hversion
    exact congrArg (attempt versionFailure) hversion
  · rw [pure_bind, hrel, pure_bind]
    rfl

/-- Sending a request records it once; nothing after that leaves the requests alone records
more. -/
theorem requests_sendRequest_bind {s : Session} {q : Vcs.Request} {expected : Int}
    {f : Unit → Run β} (hf : ∀ a, KeepsRequests (f a)) (t : Transcript) :
    (runTranscript ((sendRequest s q expected >>= f).run t)).requests = t.requests ++ [q] := by
  have hrecord : (recordRequest q).run t = .ok () { t with requests := t.requests ++ [q] } := rfl
  unfold sendRequest
  rw [bind_assoc, run_bind_of_ok hrecord]
  refine keepsRequests_bind ?_ hf _
  split
  · exact .of_quiet (quiet_crash _ _)
  · next settled _ =>
    cases settled with
    | ok u => exact .of_quiet (quiet_pure u)
    | error e => exact keepsRequests_fail (.vcs e.message)

/-- `package register` contacts the registry, recording its one request, exactly when it is
ready to (`RegisterReady`). Otherwise it halts before the registry with status 1 or 2 or a
crash, the requests unchanged. -/
theorem runRegister_contacts_registry (s : Session) (r : Reading) (t : Transcript) :
    (∀ req, RegisterReady s r req →
      (runTranscript ((runRegister s r).run t)).requests = t.requests ++ [req]) ∧
    ((∀ req, ¬RegisterReady s r req) →
      ∃ h t', (runRegister s r).run t = .error h t' ∧ t'.requests = t.requests ∧
        (h = .exit 1 ∨ h = .exit 2 ∨ ∃ c m, h = .crash c m)) := by
  refine ⟨fun req hready => ?_, fun hnot => runRegister_haltsRefused hnot t⟩
  obtain ⟨message, hrun⟩ := runRegister_of_ready hready
  rw [hrun]
  exact requests_sendRequest_bind (fun _ => .of_quiet (quiet_printMarkup _ _ _)) t

end PackageRegistry.Cli
