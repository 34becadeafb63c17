import PakeRegistration.Main
import PakeRegistration.Session
import PakeRegistration.Proofs.Unblinded
import PakeRegistration.Proofs.Residues
import PakeRegistration.Proofs.Base64Url
import PakeRegistration.Proofs.Classification
import PakeRegistration.Proofs.Json
import PakeRegistration.Proofs.Message
import PakeRegistration.Proofs.RoundTrip
import PakeRegistration.Proofs.Emission
import PakeRegistration.Proofs.Session
import PakeRegistration.Proofs.SingleUse
import PakeRegistration.Proofs.Host
import PakeRegistration.Proofs.CommandLine
import PakeRegistration.Proofs.Levels
import PakeRegistration.Proofs.Transcripts
import PakeRegistration.Proofs.Secrecy
import PakeRegistration.Proofs.Reduction
import PakeRegistration.Proofs.Inversion
import PakeRegistration.Proofs.TextForms
import PakeRegistration.Proofs.KeySearch
import PakeRegistration.Proofs.SlowHash
import PakeRegistration.Proofs.Checks
import PakeRegistration.Proofs.FirstFault
import PakeRegistration.Proofs.StartErrors
import PakeRegistration.Proofs.FixedWidth
import PakeRegistration.Proofs.ReaderCalls
import PakeRegistration.Proofs.ZeroForms
import PakeRegistration.Proofs.Registered
