import NssLayering.Fd

namespace NssLayering

inductive SECStatus where
  | SECWouldBlock
  | SECFailure
  | SECSuccess
  deriving DecidableEq, Repr

variable {σ C : Type} (N : Nspr)

def resultSecstatus (status : SECStatus) : Act σ (Result Unit) :=
  match status with
  | .SECSuccess => pure (.ok ())
  | .SECFailure => failed
  | .SECWouldBlock => pure (.error N.wouldBlock)

structure TLSSocket (C : Type) where
  file : Usize
  callbacks : C

def TLSSocket.asRawPrfd (self : TLSSocket C) : Usize := self.file

structure AuthCertificateHook (σ C : Type) where
  authCertificate : C → TLSSocket C → Bool → Bool → Act σ (Result Unit)

def rawAuthCertificateHook (hook : AuthCertificateHook σ C) (arg : TLSSocket C) (fd : Usize)
    (checkSig isServer : PRBool) : Act σ SECStatus := do
  let sock := arg
  Act.assert (sock.asRawPrfd = fd) "`(left == right)`"
  match ← hook.authCertificate sock.callbacks sock (N.boolFromNspr checkSig)
      (N.boolFromNspr isServer) with
  | .ok () => pure .SECSuccess
  | .error err => do
    err.set
    pure .SECFailure

end NssLayering
