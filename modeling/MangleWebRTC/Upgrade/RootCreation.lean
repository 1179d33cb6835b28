import MangleWebRTC.Upgrade.TlsFiles

/-! # Creating the root certificate

A start writes two files one after the other and looks at one of them only. What it can
leave behind is exact for every failure: the files of before, both files of a fresh
root, or a state in between.
-/

namespace MangleWebRTC.Upgrade

open Machine

variable {env : TlsEnvironment} {config : TlsServerConfig} {faults : TlsFaults env}
variable {files : Files String}

/-- Both files are as before, or both were absent and hold the certificate and the key
of the root that was generated. -/
def AllOrNothing (config : TlsServerConfig) (faults : TlsFaults env)
    (before after : Files String) : Prop :=
  (after config.rootCertChainPath = before config.rootCertChainPath ∧
    after config.parentKeyPath = before config.parentKeyPath) ∨
  (before config.rootCertChainPath = none ∧ before config.parentKeyPath = none ∧
    ∃ root, faults.generateRoot = .ok root ∧
      after config.rootCertChainPath = some (env.certPem root) ∧
      after config.parentKeyPath = some (env.keyPem root))

/-- The files after a number of starts. -/
def afterStarts (config : TlsServerConfig) (files : Files String) :
    List (TlsFaults env) → Files String
  | [] => files
  | faults :: later => afterStarts config (newTlsAcceptor config faults files).1 later

/-- Every later start fails, whatever the starts before it and its own operations do. -/
def Stuck (env : TlsEnvironment) (config : TlsServerConfig) (files : Files String) : Prop :=
  ∀ (earlier : List (TlsFaults env)) (faults : TlsFaults env),
    ∃ error, (newTlsAcceptor config faults (afterStarts config files earlier)).2 = .error error

/-- What a start owes to the two files: it is all or nothing, it keeps a key that was
there, and it leads into no state in which every later start fails. -/
structure Atomic (config : TlsServerConfig) (faults : TlsFaults env)
    (before after : Files String) : Prop where
  allOrNothing : AllOrNothing config faults before after
  keepsKey : ∀ key, before config.parentKeyPath = some key →
    after config.parentKeyPath = some key
  notStuck : ¬ Stuck env config before → ¬ Stuck env config after

/-- The start does not come to write the files, or cannot create the first one, or there
is no key and both writes succeed. -/
def CreatesSafely (config : TlsServerConfig) (faults : TlsFaults env) (files : Files String) :
    Prop :=
  ∀ root, creates config faults files = some root →
    (∃ error, faults.writeCert = some (.create error)) ∨
      (files config.parentKeyPath = none ∧ faults.writeCert = none ∧ faults.writeKey = none)

theorem creates_eq_some {root : env.Root} (hcreates : creates config faults files = some root) :
    files config.rootCertChainPath = none ∧ config.createIfMissing = true ∧
      faults.generateRoot = .ok root := by
  unfold creates at hcreates
  split at hcreates
  next hmissing =>
    obtain ⟨-, hcert, hmissing⟩ := hmissing
    split at hcreates
    next other hroot _ =>
      obtain rfl := Option.some.inj hcreates
      exact ⟨Option.isNone_iff_eq_none.mp hcert, hmissing, hroot⟩
    · cases hcreates
  · cases hcreates

/-- The certificate file after the writes is that of its own write. -/
theorem createdFiles_cert {root : env.Root}
    (hpaths : config.rootCertChainPath ≠ config.parentKeyPath) :
    createdFiles config faults files root config.rootCertChainPath =
      (writeFile files config.rootCertChainPath (env.certPem root) faults.writeCert).1
        config.rootCertChainPath := by
  unfold createdFiles
  split
  · exact writeFile_frame hpaths _
  · rfl

/-- The key file is untouched unless the certificate was written. -/
theorem createdFiles_key {root : env.Root}
    (hpaths : config.rootCertChainPath ≠ config.parentKeyPath) :
    createdFiles config faults files root config.parentKeyPath =
      if faults.writeCert.isNone then
        (writeFile files config.parentKeyPath (env.keyPem root) faults.writeKey).1
          config.parentKeyPath
      else files config.parentKeyPath := by
  unfold createdFiles
  split
  · match faults.writeKey with
    | none | some (.write _ _) => simp [writeFile]
    | some (.create _) => exact writeFile_frame hpaths.symm _
  · exact writeFile_frame hpaths.symm _

/-- A start touches no other file. -/
theorem newTlsAcceptor_frame {other : String} (hcert : other ≠ config.rootCertChainPath)
    (hkey : other ≠ config.parentKeyPath) :
    (newTlsAcceptor config faults files).1 other = files other := by
  rw [newTlsAcceptor_files]
  split
  · unfold createdFiles
    dsimp only
    split
    · rw [writeFile_frame hkey, writeFile_frame hcert]
    · exact writeFile_frame hcert _
  · rfl

/-- Without a failure a start loads what a start has created. -/
theorem newTlsAcceptor_loads {root : env.Root}
    (hcert : files config.rootCertChainPath = some (env.certPem root))
    (hkey : files config.parentKeyPath = some (env.keyPem root)) :
    ∃ acceptor, (newTlsAcceptor config (.none root) files).2 = .ok acceptor := by
  obtain ⟨key, pair, cert, loaded, hkeys, hpair, hcerts, hloaded⟩ := env.loads root
  refine ⟨env.acceptor loaded config.subjectAltNames, ?_⟩
  have hroot : loadRoot config (TlsFaults.none root) files = .ok loaded := by
    simp [loadRoot, readFile, check, TlsFaults.none, hcert, hkey, hkeys, hpair, hcerts, hloaded,
      Except.mapError, bind, Except.bind, pure, Except.pure]
  have hexists : tryExists files config.rootCertChainPath (TlsFaults.none root).tryExists =
      (.ok true : Except (TlsInitError env) Bool) := by
    simp [tryExists, check, TlsFaults.none, hcert, bind, Except.bind, pure, Except.pure]
  simp only [newTlsAcceptor, hexists, hroot]
  rfl

/-! ## All or nothing -/

/-- A start that creates safely leaves the files as before, or both of a fresh root. -/
theorem CreatesSafely.leaves (hpaths : config.rootCertChainPath ≠ config.parentKeyPath)
    (hsafely : CreatesSafely config faults files) :
    (newTlsAcceptor config faults files).1 = files ∨
      (files config.rootCertChainPath = none ∧ files config.parentKeyPath = none ∧
        ∃ root, faults.generateRoot = .ok root ∧
          (newTlsAcceptor config faults files).1 config.rootCertChainPath =
            some (env.certPem root) ∧
          (newTlsAcceptor config faults files).1 config.parentKeyPath =
            some (env.keyPem root)) := by
  rw [newTlsAcceptor_files]
  split
  next root hcreates =>
    obtain ⟨habsent, -, hroot⟩ := creates_eq_some hcreates
    obtain ⟨error, hcert⟩ | ⟨hkey, hcert, hwritten⟩ := hsafely root hcreates
    · refine .inl ?_
      simp [createdFiles, hcert, writeFile]
    · refine .inr ⟨habsent, hkey, root, hroot, ?_, ?_⟩
      · rw [createdFiles_cert hpaths, hcert]
        simp [writeFile]
      · rw [createdFiles_key hpaths, hcert, hwritten]
        simp [writeFile]
  · exact .inl rfl

/-- All or nothing forces the writes to be safe: a written certificate needs its key
behind it, and a written key no key before it. -/
theorem createsSafely_of_allOrNothing (hpaths : config.rootCertChainPath ≠ config.parentKeyPath)
    (hall : AllOrNothing config faults files (newTlsAcceptor config faults files).1) :
    CreatesSafely config faults files := by
  intro root hcreates
  obtain ⟨habsent, -, hroot⟩ := creates_eq_some hcreates
  simp only [newTlsAcceptor_files, hcreates, AllOrNothing, createdFiles_cert hpaths,
    createdFiles_key hpaths] at hall
  obtain ⟨hcert, -⟩ | ⟨-, hkey, other, hother, hcert, hwritten⟩ := hall
  · rw [habsent, writeFile_eq_none_iff habsent] at hcert
    exact .inl hcert
  · obtain rfl : root = other := Except.ok.inj (hroot.symm.trans hother)
    rw [writeFile_eq_contents_iff (env.certPem_ne_nil root) habsent] at hcert
    rw [hcert, Option.isNone_none, if_pos rfl,
      writeFile_eq_contents_iff (env.keyPem_ne_nil root) hkey] at hwritten
    exact .inr ⟨hkey, hcert, hwritten⟩

/-- Root certificate creation, for every state of the two files, every configuration and
every failure: a start is all or nothing, keeps an existing key and never leads into a
state in which every later start fails, if and only if it creates safely. -/
theorem root_creation_atomic_iff (hpaths : config.rootCertChainPath ≠ config.parentKeyPath) :
    Atomic config faults files (newTlsAcceptor config faults files).1 ↔
      CreatesSafely config faults files := by
  constructor
  · intro hatomic
    exact createsSafely_of_allOrNothing hpaths hatomic.allOrNothing
  · intro hsafely
    obtain hsame | ⟨habsent, hkey, root, hroot, hcert, hwritten⟩ := hsafely.leaves hpaths
    · rw [hsame]
      exact ⟨.inl ⟨rfl, rfl⟩, fun _ => id, id⟩
    · refine ⟨.inr ⟨habsent, hkey, root, hroot, hcert, hwritten⟩, by simp [hkey], ?_⟩
      intro _ hstuck
      obtain ⟨acceptor, hloads⟩ := newTlsAcceptor_loads hcert hwritten
      obtain ⟨error, herror⟩ := hstuck [] (.none root)
      simp [afterStarts, hloads] at herror

/-- Certificates and keys of two bytes: what it is, and whose. -/
def byteTls : TlsEnvironment where
  RcgenError := Unit
  RustlsError := Unit
  Root := UInt8
  KeyDer := UInt8
  KeyPair := UInt8
  CertDer := UInt8
  Acceptor := UInt8 × List String
  pkcs8PrivateKeys
    | [0x4B, key] => .ok [key]
    | _ => .ok []
  keyPairFromDer := .ok
  certs
    | [0x43, cert] => .ok [cert]
    | _ => .ok []
  fromCaCertDer cert _ := .ok cert
  certPem root := [0x43, root]
  keyPem root := [0x4B, root]
  acceptor root names := (root, names)
  certPem_ne_nil _ := List.cons_ne_nil _ _
  keyPem_ne_nil _ := List.cons_ne_nil _ _
  loads root := ⟨root, root, root, root, rfl, rfl, rfl, rfl⟩

/-- A server that creates its root in `certs`. -/
def exampleConfig : TlsServerConfig where
  rootCertChainPath := "certs/root_cert.pem"
  parentKeyPath := "certs/root_key.pem"
  subjectAltNames := ["localhost"]
  createIfMissing := true

theorem exampleConfig_paths : exampleConfig.rootCertChainPath ≠ exampleConfig.parentKeyPath := by
  decide

/-- A start that generates root 7 if it generates one. -/
def sound : TlsFaults byteTls := .none (7 : UInt8)

/-- A first start without a failure: both files of root 7. -/
theorem root_creation_atomic_first_start :
    Atomic exampleConfig sound (fun _ => none)
        (newTlsAcceptor exampleConfig sound fun _ => none).1 ∧
      (newTlsAcceptor exampleConfig sound fun _ => none).1 "certs/root_key.pem" =
        some [0x4B, 7] :=
  ⟨(root_creation_atomic_iff exampleConfig_paths).mpr fun _ _ => .inr ⟨rfl, rfl, rfl⟩, by decide⟩

/-! ## What an unsafe creation leaves behind -/

/-- A certificate without its key is never repaired: the certificate selects the branch
that opens the key file. -/
theorem newTlsAcceptor_of_lone_cert (faults : TlsFaults env) {contents : List UInt8}
    (hcert : files config.rootCertChainPath = some contents)
    (hkey : files config.parentKeyPath = none) :
    ∃ error, newTlsAcceptor config faults files = (files, .error error) := by
  unfold newTlsAcceptor tryExists
  cases htry : faults.tryExists with
  | some error => exact ⟨.ioError error, rfl⟩
  | none =>
      have hload : ∃ error, loadRoot config faults files = .error error := by
        cases hopen : faults.openKey with
        | some error =>
            exact ⟨.ioError error, by simp [loadRoot, readFile, check, hopen, bind, Except.bind]⟩
        | none =>
            exact ⟨.ioError (.os 2),
              by simp [loadRoot, readFile, check, hopen, hkey, bind, Except.bind]⟩
      obtain ⟨error, hload⟩ := hload
      refine ⟨error, ?_⟩
      simp [check, hcert, hload, bind, Except.bind, pure, Except.pure]

theorem afterStarts_of_lone_cert {contents : List UInt8}
    (hcert : files config.rootCertChainPath = some contents)
    (hkey : files config.parentKeyPath = none) (earlier : List (TlsFaults env)) :
    afterStarts config files earlier = files := by
  induction earlier with
  | nil => rfl
  | cons faults earlier ih =>
      obtain ⟨error, hstart⟩ := newTlsAcceptor_of_lone_cert faults hcert hkey
      rw [afterStarts, hstart]
      exact ih

theorem stuck_of_lone_cert {contents : List UInt8}
    (hcert : files config.rootCertChainPath = some contents)
    (hkey : files config.parentKeyPath = none) : Stuck env config files := by
  intro earlier faults
  rw [afterStarts_of_lone_cert hcert hkey]
  obtain ⟨error, hstart⟩ := newTlsAcceptor_of_lone_cert faults hcert hkey
  exact ⟨error, by rw [hstart]⟩

/-- `ENOSPC` when the key file is created; the certificate has been written. -/
def keyNotCreated : TlsFaults byteTls := { sound with writeKey := some (.create (.os 28)) }

/-- The key of a certificate that is not there. -/
def loneKey : Files String := Function.update (fun _ => none) "certs/root_key.pem" (some [0x4B, 3])

/-- A first start that fails between the two writes leaves the certificate alone, and no
later start succeeds; a start that does not fail overwrites an existing key. -/
theorem root_creation_torn :
    ¬ AllOrNothing exampleConfig keyNotCreated (fun _ => none)
        (newTlsAcceptor exampleConfig keyNotCreated fun _ => none).1 ∧
      ¬ Stuck byteTls exampleConfig (fun _ => none) ∧
      Stuck byteTls exampleConfig (newTlsAcceptor exampleConfig keyNotCreated fun _ => none).1 ∧
      loneKey exampleConfig.parentKeyPath = some [0x4B, 3] ∧
      (newTlsAcceptor exampleConfig sound loneKey).1 exampleConfig.parentKeyPath =
        some [0x4B, 7] := by
  have hcert : (newTlsAcceptor exampleConfig keyNotCreated fun _ => none).1
      exampleConfig.rootCertChainPath = some [0x43, 7] := by decide
  have hkey : (newTlsAcceptor exampleConfig keyNotCreated fun _ => none).1
      exampleConfig.parentKeyPath = none := by decide
  refine ⟨?_, ?_, stuck_of_lone_cert hcert hkey, by decide, by decide⟩
  · rintro (⟨hbefore, -⟩ | ⟨-, -, root, -, -, hafter⟩)
    · rw [hcert] at hbefore
      cases hbefore
    · rw [hkey] at hafter
      cases hafter
  · intro hstuck
    obtain ⟨error, herror⟩ := hstuck [] sound
    have hstarts : (newTlsAcceptor exampleConfig sound fun _ => none).2 =
        .ok (7, ["localhost"]) := rfl
    rw [afterStarts, hstarts] at herror
    cases herror

end MangleWebRTC.Upgrade
