import MangleWebRTC.Machine.Files

/-! # The root certificate of a TLS server

`new_tls_acceptor` loads the root certificate and its key from two files, or creates
both when the certificate is missing. What the libraries compute is a parameter; every
operation of a start can fail, which is the start's input.
-/

namespace MangleWebRTC.Upgrade

open Machine

/-- The kinds of the errors that the source builds. -/
inductive ErrorKind where
  | notFound
  | invalidData
  deriving DecidableEq, Repr

/-- An error of the operating system, or one that the source builds. -/
inductive TlsIoError where
  | os (code : Nat)
  | custom (kind : ErrorKind) (message : String)
  deriving DecidableEq, Repr

/-- The libraries that read, generate and use certificates. A generated root is read
back from its two PEM files, which are not empty. -/
structure TlsEnvironment where
  RcgenError : Type
  RustlsError : Type
  Root : Type
  KeyDer : Type
  KeyPair : Type
  CertDer : Type
  Acceptor : Type
  pkcs8PrivateKeys : List UInt8 → Except TlsIoError (List KeyDer)
  keyPairFromDer : KeyDer → Except RcgenError KeyPair
  certs : List UInt8 → Except TlsIoError (List CertDer)
  fromCaCertDer : CertDer → KeyPair → Except RcgenError Root
  certPem : Root → List UInt8
  keyPem : Root → List UInt8
  acceptor : Root → List String → Acceptor
  certPem_ne_nil : ∀ root, certPem root ≠ []
  keyPem_ne_nil : ∀ root, keyPem root ≠ []
  loads : ∀ root, ∃ key pair cert loaded, pkcs8PrivateKeys (keyPem root) = .ok [key] ∧
    keyPairFromDer key = .ok pair ∧ certs (certPem root) = .ok [cert] ∧
    fromCaCertDer cert pair = .ok loaded

/-- `TlsInitError`. -/
inductive TlsInitError (env : TlsEnvironment) where
  | ioError (error : TlsIoError)
  | rcgenError (error : env.RcgenError)
  | rustlsError (error : env.RustlsError)

/-- `TlsServerConfig`. -/
structure TlsServerConfig where
  rootCertChainPath : String
  parentKeyPath : String
  subjectAltNames : List String
  createIfMissing : Bool

/-- The operations of one start, each with its failure if it fails. -/
structure TlsFaults (env : TlsEnvironment) where
  tryExists : Option TlsIoError
  openKey : Option TlsIoError
  readKey : Option TlsIoError
  openCerts : Option TlsIoError
  readCerts : Option TlsIoError
  generateRoot : Except env.RcgenError env.Root
  serializePem : Option env.RcgenError
  writeCert : Option (WriteFault TlsIoError)
  writeKey : Option (WriteFault TlsIoError)
  generateServer : Option env.RcgenError
  signServer : Option env.RcgenError
  serializeParent : Option env.RcgenError
  singleCert : Option env.RustlsError

/-- No operation fails. -/
def TlsFaults.none {env : TlsEnvironment} (root : env.Root) : TlsFaults env where
  tryExists := .none
  openKey := .none
  readKey := .none
  openCerts := .none
  readCerts := .none
  generateRoot := .ok root
  serializePem := .none
  writeCert := .none
  writeKey := .none
  generateServer := .none
  signServer := .none
  serializeParent := .none
  singleCert := .none

section Start

variable {env : TlsEnvironment}

/-- An operation and its `?`. -/
def check {Error : Type} (fault : Option Error) (ofError : Error → TlsInitError env) :
    Except (TlsInitError env) Unit :=
  match fault with
  | none => .ok ()
  | some error => .error (ofError error)

/-- `File::open` and the read of all of the file. A missing file is `ENOENT`. -/
def readFile (files : Files String) (path : String) (openFault readFault : Option TlsIoError) :
    Except (TlsInitError env) (List UInt8) := do
  check openFault .ioError
  match files path with
  | none => .error (.ioError (.os 2))
  | some contents => do
      check readFault .ioError
      return contents

/-- `parent_certs_path.try_exists()`. -/
def tryExists (files : Files String) (path : String) (fault : Option TlsIoError) :
    Except (TlsInitError env) Bool := do
  check fault .ioError
  return (files path).isSome

/-- The branch in which the certificate exists. -/
def loadRoot (config : TlsServerConfig) (faults : TlsFaults env) (files : Files String) :
    Except (TlsInitError env) env.Root := do
  let keyFile ← readFile files config.parentKeyPath faults.openKey faults.readKey
  match ← (env.pkcs8PrivateKeys keyFile).mapError .ioError with
  | [key] =>
      let parentKey ← (env.keyPairFromDer key).mapError .rcgenError
      let certFile ← readFile files config.rootCertChainPath faults.openCerts faults.readCerts
      let certs ← (env.certs certFile).mapError .ioError
      match certs.getLast? with
      | some parentCertDer => (env.fromCaCertDer parentCertDer parentKey).mapError .rcgenError
      | none => .error (.ioError (.custom .invalidData
          "There must be at least one certificate in the root cert chain file"))
  | _ => .error (.ioError (.custom .invalidData
      "There must be exactly one private key in the parent key file"))

/-- The branch in which it is created: the certificate is written first, then its key. -/
def createRoot (config : TlsServerConfig) (faults : TlsFaults env) (files : Files String) :
    Files String × Except (TlsInitError env) env.Root :=
  match faults.generateRoot, faults.serializePem with
  | .error error, _ | .ok _, some error => (files, .error (.rcgenError error))
  | .ok root, none =>
      match writeFile files config.rootCertChainPath (env.certPem root) faults.writeCert with
      | (files, .error error) => (files, .error (.ioError error))
      | (files, .ok ()) =>
          match writeFile files config.parentKeyPath (env.keyPem root) faults.writeKey with
          | (files, .error error) => (files, .error (.ioError error))
          | (files, .ok ()) => (files, .ok root)

/-- The server's own certificate and its configuration; no file is touched. -/
def acceptorOf (config : TlsServerConfig) (faults : TlsFaults env) (parentCert : env.Root) :
    Except (TlsInitError env) env.Acceptor := do
  check faults.generateServer .rcgenError
  check faults.signServer .rcgenError
  check faults.serializeParent .rcgenError
  check faults.singleCert .rustlsError
  return env.acceptor parentCert config.subjectAltNames

/-- A start of the server: what it does to the files, and its acceptor or its error. -/
def newTlsAcceptor (config : TlsServerConfig) (faults : TlsFaults env) (files : Files String) :
    Files String × Except (TlsInitError env) env.Acceptor :=
  match tryExists files config.rootCertChainPath faults.tryExists with
  | .error error => (files, .error error)
  | .ok true => (files, loadRoot config faults files >>= acceptorOf config faults)
  | .ok false =>
      if config.createIfMissing then
        match createRoot config faults files with
        | (files, .error error) => (files, .error error)
        | (files, .ok parentCert) => (files, acceptorOf config faults parentCert)
      else (files, .error (.ioError (.custom .notFound "Certificate file does not exist")))

/-! ## The files a start leaves behind -/

/-- The root whose files the start comes to write. -/
def creates (config : TlsServerConfig) (faults : TlsFaults env) (files : Files String) :
    Option env.Root :=
  if faults.tryExists.isNone ∧ (files config.rootCertChainPath).isNone ∧
      config.createIfMissing then
    match faults.generateRoot, faults.serializePem with
    | .ok root, none => some root
    | _, _ => none
  else none

/-- The files after the two writes: the key is written if the certificate was. -/
def createdFiles (config : TlsServerConfig) (faults : TlsFaults env) (files : Files String)
    (root : env.Root) : Files String :=
  let written := writeFile files config.rootCertChainPath (env.certPem root) faults.writeCert
  if faults.writeCert.isNone then
    (writeFile written.1 config.parentKeyPath (env.keyPem root) faults.writeKey).1
  else written.1

theorem createRoot_files {config : TlsServerConfig} {faults : TlsFaults env}
    {files : Files String} {root : env.Root} (hroot : faults.generateRoot = .ok root)
    (hpem : faults.serializePem = none) :
    (createRoot config faults files).1 = createdFiles config faults files root := by
  simp only [createRoot, createdFiles, hroot, hpem]
  match hcert : faults.writeCert with
  | some (.create error) | some (.write error written) => rfl
  | none =>
      match hkey : faults.writeKey with
      | none | some (.create error) | some (.write error written) => rfl

theorem newTlsAcceptor_files (config : TlsServerConfig) (faults : TlsFaults env)
    (files : Files String) :
    (newTlsAcceptor config faults files).1 =
      match creates config faults files with
      | some root => createdFiles config faults files root
      | none => files := by
  unfold newTlsAcceptor tryExists creates
  cases htry : faults.tryExists with
  | some error => rfl
  | none =>
      cases hcert : files config.rootCertChainPath with
      | some contents => rfl
      | none =>
          cases hmissing : config.createIfMissing with
          | false => rfl
          | true =>
              -- The result is that of `createRoot`, whose files are kept.
              have hfiles : ∀ (created : Files String × Except (TlsInitError env) env.Root),
                  (match created with
                    | (files, .error error) => (files, .error error)
                    | (files, .ok parentCert) => (files, acceptorOf config faults parentCert) :
                      Files String × Except (TlsInitError env) env.Acceptor).1 = created.1 := by
                rintro ⟨after, error | root⟩ <;> rfl
              refine (hfiles _).trans ?_
              cases hroot : faults.generateRoot with
              | error error => simp [createRoot, hroot]
              | ok root =>
                  cases hpem : faults.serializePem with
                  | some error => simp [createRoot, hroot, hpem]
                  | none => simpa using createRoot_files hroot hpem

end Start

end MangleWebRTC.Upgrade
