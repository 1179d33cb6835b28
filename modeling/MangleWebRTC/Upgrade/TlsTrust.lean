import MangleWebRTC.Upgrade.RootCreation

/-! # The root certificate at both ends

A server loads its root from the last certificate of a file, a client trusts the only one
of a file. Once a start has succeeded, no start changes the files, and the servers that
start from them and the clients that are given the certificate have one root.
-/

namespace MangleWebRTC.Upgrade

open Machine

/-- What a client does with a root certificate, and the connector for a root store. -/
structure TlsClient (env : TlsEnvironment) where
  Connector : Type
  addRoot : env.CertDer → Except env.RustlsError Unit
  connector : List env.CertDer → Connector

section Connector

variable {env : TlsEnvironment}

/-- A connector with an empty root store, or with the only certificate of a file. -/
def newTlsConnector (tls : TlsClient env) (rootCertPath : Option String)
    (openRoot readRoot : Option TlsIoError) (files : Files String) :
    Except (TlsInitError env) tls.Connector := do
  match rootCertPath with
  | none => return tls.connector []
  | some path =>
      let rootCertFile ← readFile files path openRoot readRoot
      match ← (env.certs rootCertFile).mapError .ioError with
      | [rootCert] => do
          (tls.addRoot rootCert).mapError .rustlsError
          return tls.connector [rootCert]
      | _ => .error (.ioError (.custom .invalidData
          "There must be exactly one certificate in the root cert file"))

/-- The root that the two files have. -/
def Holds (config : TlsServerConfig) (files : Files String) (root : env.Root) : Prop :=
  ∃ keyFile key pair certFile certs cert, files config.parentKeyPath = some keyFile ∧
    env.pkcs8PrivateKeys keyFile = .ok [key] ∧ env.keyPairFromDer key = .ok pair ∧
    files config.rootCertChainPath = some certFile ∧ env.certs certFile = .ok certs ∧
    certs.getLast? = some cert ∧ env.fromCaCertDer cert pair = .ok root

/-! ## What a success needs -/

theorem bind_eq_ok {Error First Second : Type} {first : Except Error First}
    {rest : First → Except Error Second} {result : Second} :
    (first >>= rest) = .ok result ↔ ∃ value, first = .ok value ∧ rest value = .ok result := by
  cases first with
  | error error => simp [bind, Except.bind]
  | ok value => simp [bind, Except.bind]

theorem mapError_eq_ok {Error Other Value : Type} {result : Except Error Value}
    {ofError : Error → Other} {value : Value} :
    result.mapError ofError = .ok value ↔ result = .ok value := by
  cases result <;> simp [Except.mapError]

theorem readFile_eq_ok {files : Files String} {path : String}
    {openFault readFault : Option TlsIoError} {contents : List UInt8}
    (hread : (readFile files path openFault readFault : Except (TlsInitError env) _) =
      .ok contents) : files path = some contents := by
  obtain ⟨_, _, hread⟩ := bind_eq_ok.mp hread
  split at hread
  · cases hread
  next found hfound =>
    obtain ⟨_, _, hread⟩ := bind_eq_ok.mp hread
    exact hfound.trans (congrArg some (Except.ok.inj hread))

theorem holds_of_loadRoot {config : TlsServerConfig} {faults : TlsFaults env}
    {files : Files String} {root : env.Root} (hload : loadRoot config faults files = .ok root) :
    Holds config files root := by
  obtain ⟨keyFile, hkeyFile, hload⟩ := bind_eq_ok.mp hload
  obtain ⟨keys, hkeys, hload⟩ := bind_eq_ok.mp hload
  split at hload
  next key =>
    obtain ⟨pair, hpair, hload⟩ := bind_eq_ok.mp hload
    obtain ⟨certFile, hcertFile, hload⟩ := bind_eq_ok.mp hload
    obtain ⟨certs, hcerts, hload⟩ := bind_eq_ok.mp hload
    split at hload
    next cert hcert =>
      exact ⟨keyFile, key, pair, certFile, certs, cert, readFile_eq_ok hkeyFile,
        mapError_eq_ok.mp hkeys, mapError_eq_ok.mp hpair, readFile_eq_ok hcertFile,
        mapError_eq_ok.mp hcerts, hcert, mapError_eq_ok.mp hload⟩
    · cases hload
  · cases hload

/-- The files have one root at most. -/
theorem Holds.unique {config : TlsServerConfig} {files : Files String} {root other : env.Root}
    (hholds : Holds config files root) (hother : Holds config files other) : root = other := by
  obtain ⟨keyFile, key, pair, certFile, certs, cert, hkeyFile, hkey, hpair, hcertFile, hcerts,
    hcert, hroot⟩ := hholds
  obtain ⟨keyFile', key', pair', certFile', certs', cert', hkeyFile', hkey', hpair', hcertFile',
    hcerts', hcert', hroot'⟩ := hother
  obtain rfl := Option.some.inj (hkeyFile.symm.trans hkeyFile')
  obtain rfl := List.singleton_inj.mp (Except.ok.inj (hkey.symm.trans hkey'))
  obtain rfl := Except.ok.inj (hpair.symm.trans hpair')
  obtain rfl := Option.some.inj (hcertFile.symm.trans hcertFile')
  obtain rfl := Except.ok.inj (hcerts.symm.trans hcerts')
  obtain rfl := Option.some.inj (hcert.symm.trans hcert')
  exact Except.ok.inj (hroot.symm.trans hroot')

theorem acceptorOf_eq_ok {config : TlsServerConfig} {faults : TlsFaults env} {root : env.Root}
    {acceptor : env.Acceptor} (hacceptor : acceptorOf config faults root = .ok acceptor) :
    acceptor = env.acceptor root config.subjectAltNames := by
  obtain ⟨_, _, hacceptor⟩ := bind_eq_ok.mp hacceptor
  obtain ⟨_, _, hacceptor⟩ := bind_eq_ok.mp hacceptor
  obtain ⟨_, _, hacceptor⟩ := bind_eq_ok.mp hacceptor
  obtain ⟨_, _, hacceptor⟩ := bind_eq_ok.mp hacceptor
  exact (Except.ok.inj hacceptor).symm

/-- Both files are those of a root that was created. -/
def Fresh (config : TlsServerConfig) (files : Files String) (root : env.Root) : Prop :=
  files config.rootCertChainPath = some (env.certPem root) ∧
    files config.parentKeyPath = some (env.keyPem root)

theorem writeFile_eq_ok {files after : Files String} {path : String} {contents : List UInt8}
    {fault : Option (WriteFault TlsIoError)}
    (hwrite : writeFile files path contents fault = (after, .ok ())) :
    after = Function.update files path (some contents) := by
  match fault with
  | none => exact (Prod.mk.inj hwrite).1.symm
  | some (.create _) => cases (Prod.mk.inj hwrite).2
  | some (.write _ _) => cases (Prod.mk.inj hwrite).2

theorem fresh_of_createRoot {config : TlsServerConfig} {faults : TlsFaults env}
    {files after : Files String} {root : env.Root}
    (hpaths : config.rootCertChainPath ≠ config.parentKeyPath)
    (hcreate : createRoot config faults files = (after, .ok root)) : Fresh config after root := by
  unfold createRoot at hcreate
  split at hcreate
  · cases hcreate
  · cases hcreate
  next created _ _ =>
    split at hcreate
    · cases hcreate
    next written hcert =>
      split at hcreate
      · cases hcreate
      next done hkey =>
        obtain ⟨rfl, hroot⟩ := Prod.mk.inj hcreate
        obtain rfl := Except.ok.inj hroot
        have hdone := writeFile_eq_ok hkey
        have hwritten := writeFile_eq_ok hcert
        refine ⟨?_, ?_⟩ <;> rw [hdone]
        · rw [Function.update_of_ne hpaths, hwritten, Function.update_self]
        · rw [Function.update_self]

theorem tryExists_eq_ok {files : Files String} {path : String} {fault : Option TlsIoError}
    {found : Bool} (hexists : (tryExists files path fault : Except (TlsInitError env) Bool) =
      .ok found) : (files path).isSome = found := by
  obtain ⟨_, _, hexists⟩ := bind_eq_ok.mp hexists
  exact Except.ok.inj hexists

/-- A start that succeeds has loaded the root of the files, which it has not changed, or
has missed the certificate and created a root. -/
theorem root_of_ok {config : TlsServerConfig} {faults : TlsFaults env} {files : Files String}
    {acceptor : env.Acceptor} (hpaths : config.rootCertChainPath ≠ config.parentKeyPath)
    (hstart : (newTlsAcceptor config faults files).2 = .ok acceptor) :
    ∃ root, acceptor = env.acceptor root config.subjectAltNames ∧
      ((newTlsAcceptor config faults files).1 = files ∧ Holds config files root ∨
        files config.rootCertChainPath = none ∧
          Fresh config (newTlsAcceptor config faults files).1 root) := by
  unfold newTlsAcceptor at hstart ⊢
  cases hexists : (tryExists files config.rootCertChainPath faults.tryExists :
      Except (TlsInitError env) Bool) with
  | error error => simp [hexists] at hstart
  | ok found =>
      have hfound := tryExists_eq_ok hexists
      cases found with
      | true =>
          simp only [hexists] at hstart
          obtain ⟨root, hload, hacceptor⟩ := bind_eq_ok.mp hstart
          exact ⟨root, acceptorOf_eq_ok hacceptor, .inl ⟨rfl, holds_of_loadRoot hload⟩⟩
      | false =>
          simp only [hexists] at hstart
          split at hstart
          next hmissing =>
            rcases hcreate : createRoot config faults files with ⟨after, error | root⟩
            · simp [hcreate] at hstart
            · simp only [hcreate] at hstart
              refine ⟨root, acceptorOf_eq_ok hstart, .inr ⟨by simpa using hfound, ?_⟩⟩
              simpa [hmissing, hcreate] using fresh_of_createRoot hpaths hcreate
          · simp at hstart

/-! ## Later starts -/

/-- Only a start that misses the certificate writes. -/
theorem newTlsAcceptor_of_cert {config : TlsServerConfig} {files : Files String}
    {contents : List UInt8} (hcert : files config.rootCertChainPath = some contents)
    (faults : TlsFaults env) : (newTlsAcceptor config faults files).1 = files := by
  have hnone : creates config faults files = none := by
    rw [Option.eq_none_iff_forall_ne_some]
    intro root hcreates
    cases hcert.symm.trans (creates_eq_some hcreates).1
  rw [newTlsAcceptor_files, hnone]

theorem afterStarts_of_cert {config : TlsServerConfig} {files : Files String}
    {contents : List UInt8} (hcert : files config.rootCertChainPath = some contents)
    (starts : List (TlsFaults env)) : afterStarts config files starts = files := by
  induction starts with
  | nil => rfl
  | cons faults later ih => rw [afterStarts, newTlsAcceptor_of_cert hcert, ih]

theorem connector_of_ok {tls : TlsClient env} {path : String} {files : Files String}
    {openRoot readRoot : Option TlsIoError} {connector : tls.Connector}
    (hconnector : newTlsConnector tls (some path) openRoot readRoot files = .ok connector) :
    ∃ file cert, files path = some file ∧ env.certs file = .ok [cert] ∧
      connector = tls.connector [cert] := by
  obtain ⟨file, hfile, hconnector⟩ := bind_eq_ok.mp hconnector
  obtain ⟨certs, hcerts, hconnector⟩ := bind_eq_ok.mp hconnector
  split at hconnector
  next cert =>
    obtain ⟨_, _, hconnector⟩ := bind_eq_ok.mp hconnector
    exact ⟨file, cert, readFile_eq_ok hfile, mapError_eq_ok.mp hcerts,
      (Except.ok.inj hconnector).symm⟩
  · cases hconnector

/-- The connector trusts one certificate: the only one of the certificate file, from which
the root is loaded with the key pair of the key file. -/
def TrustsRoot (tls : TlsClient env) (config : TlsServerConfig) (files : Files String)
    (root : env.Root) (connector : tls.Connector) : Prop :=
  ∃ certFile cert keyFile key pair, files config.rootCertChainPath = some certFile ∧
    env.certs certFile = .ok [cert] ∧ files config.parentKeyPath = some keyFile ∧
    env.pkcs8PrivateKeys keyFile = .ok [key] ∧ env.keyPairFromDer key = .ok pair ∧
    env.fromCaCertDer cert pair = .ok root ∧ connector = tls.connector [cert]

theorem Holds.trustsRoot {config : TlsServerConfig} {files : Files String} {root : env.Root}
    (hholds : Holds config files root) {tls : TlsClient env} {openRoot readRoot : Option TlsIoError}
    {connector : tls.Connector} (hconnector : newTlsConnector tls (some config.rootCertChainPath)
      openRoot readRoot files = .ok connector) : TrustsRoot tls config files root connector := by
  obtain ⟨certFile, cert, hcertFile, hcerts, rfl⟩ := connector_of_ok hconnector
  obtain ⟨keyFile, key, pair, found, certs, last, hkeyFile, hkey, hpair, hfound, hread, hlast,
    hloaded⟩ := hholds
  obtain rfl := Option.some.inj (hcertFile.symm.trans hfound)
  obtain rfl := Except.ok.inj (hcerts.symm.trans hread)
  obtain rfl := Option.some.inj hlast
  exact ⟨certFile, cert, keyFile, key, pair, hcertFile, hcerts, hkeyFile, hkey, hpair, hloaded, rfl⟩

/-- The files of a created root have a root: `loads` reads it back. -/
theorem Fresh.exists_holds {config : TlsServerConfig} {files : Files String} {made : env.Root}
    (hfresh : Fresh config files made) : ∃ root : env.Root, Holds config files root := by
  obtain ⟨hcertFile, hkeyFile⟩ := hfresh
  obtain ⟨key, pair, cert, root, hkey, hpair, hcerts, hroot⟩ := env.loads made
  exact ⟨root, _, key, pair, _, [cert], cert, hkeyFile, hkey, hpair, hcertFile, hcerts, rfl, hroot⟩

/-- After a start that succeeds the files have exactly one root, and whatever happens to the
starts after it: none of them changes the files, every acceptor is one for this root, and every
connector from the certificate file trusts the certificate of this root alone. -/
theorem trust_stable {config : TlsServerConfig} {files : Files String} {first : TlsFaults env}
    {acceptor : env.Acceptor} (hpaths : config.rootCertChainPath ≠ config.parentKeyPath)
    (hfirst : (newTlsAcceptor config first files).2 = .ok acceptor) :
    ∃ kept root, (newTlsAcceptor config first files).1 = kept ∧ Holds config kept root ∧
      (∀ another, Holds config kept another → another = root) ∧
      (∃ made, acceptor = env.acceptor made config.subjectAltNames ∧
        (made = root ∨ Fresh config kept made)) ∧
      ∀ later : List (TlsFaults env), afterStarts config kept later = kept ∧
        (∀ last other,
          (newTlsAcceptor config last (afterStarts config kept later)).2 = .ok other →
            other = env.acceptor root config.subjectAltNames) ∧
        ∀ (tls : TlsClient env) openRoot readRoot connector,
          newTlsConnector tls (some config.rootCertChainPath) openRoot readRoot
            (afterStarts config kept later) = .ok connector →
              TrustsRoot tls config kept root connector := by
  obtain ⟨made, hacceptor, hmade⟩ := root_of_ok hpaths hfirst
  have hroot : ∃ root, Holds config (newTlsAcceptor config first files).1 root ∧
      (made = root ∨ Fresh config (newTlsAcceptor config first files).1 made) := by
    rcases hmade with ⟨hsame, hholds⟩ | ⟨_, hfresh⟩
    · exact ⟨made, hsame.symm ▸ hholds, .inl rfl⟩
    · obtain ⟨root, hholds⟩ := hfresh.exists_holds
      exact ⟨root, hholds, .inr hfresh⟩
  obtain ⟨root, hholds, hplace⟩ := hroot
  have hcert : ∃ contents,
      (newTlsAcceptor config first files).1 config.rootCertChainPath = some contents := by
    obtain ⟨_, _, _, contents, _, _, _, _, _, hcontents, _⟩ := hholds
    exact ⟨contents, hcontents⟩
  obtain ⟨contents, hcert⟩ := hcert
  refine ⟨_, root, rfl, hholds, fun another hanother => hanother.unique hholds,
    ⟨made, hacceptor, hplace⟩, fun later => ?_⟩
  have hkept := afterStarts_of_cert hcert later
  refine ⟨hkept, ?_, ?_⟩
  · intro last other hlast
    rw [hkept] at hlast
    obtain ⟨loaded, hother, ⟨_, hloaded⟩ | ⟨habsent, _⟩⟩ := root_of_ok hpaths hlast
    · exact hloaded.unique hholds ▸ hother
    · cases habsent.symm.trans hcert
  · intro tls openRoot readRoot connector hconnector
    rw [hkept] at hconnector
    exact hholds.trustsRoot hconnector

/-- A client that takes every certificate and keeps its root store. -/
def byteTrust : TlsClient byteTls where
  Connector := List UInt8
  addRoot _ := .ok ()
  connector certs := certs

/-- A first start creates the files, a second one fails, and a third one and a client agree:
the acceptor is one for the root of the certificate that the client trusts. -/
theorem trust_stable_example :
    ∃ (kept : Files String) (root : byteTls.Root),
      (newTlsAcceptor exampleConfig sound fun _ => none).1 = kept ∧
      afterStarts exampleConfig kept [{ sound with openKey := some (.os 13) }] = kept ∧
      (newTlsAcceptor exampleConfig sound kept).2 = .ok (7, ["localhost"]) ∧
      (7, ["localhost"]) = byteTls.acceptor root exampleConfig.subjectAltNames ∧
      newTlsConnector byteTrust (some exampleConfig.rootCertChainPath) none none kept = .ok [7] ∧
      TrustsRoot byteTrust exampleConfig kept root [7] := by
  obtain ⟨kept, root, hkept, -, -, -, hlater⟩ := @trust_stable byteTls exampleConfig
    (fun _ => none) sound (7, ["localhost"]) exampleConfig_paths rfl
  obtain ⟨hfailed, hacceptors, hconnectors⟩ := hlater [{ sound with openKey := some (.os 13) }]
  have hthird : (newTlsAcceptor exampleConfig sound kept).2 = .ok (7, ["localhost"]) := by
    rw [← hkept]
    rfl
  have hclient : newTlsConnector byteTrust (some exampleConfig.rootCertChainPath) none none kept =
      .ok [7] := by
    rw [← hkept]
    rfl
  refine ⟨kept, root, hkept, hfailed, hthird, ?_, hclient, ?_⟩
  · exact hacceptors sound (7, ["localhost"]) (by rw [hfailed]; exact hthird)
  · exact hconnectors byteTrust none none [7] (by rw [hfailed]; exact hclient)

end Connector

end MangleWebRTC.Upgrade
