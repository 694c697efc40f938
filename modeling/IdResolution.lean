import IdResolution.Message.Json
import IdResolution.Proofs.Binary64.Closest
import IdResolution.Proofs.Config.Override
import IdResolution.Proofs.Message.RoundTrip
import IdResolution.Proofs.Message.Shape
import IdResolution.Proofs.Message.Wire
import IdResolution.Proofs.Node.Literals
import IdResolution.Proofs.Node.Number
import IdResolution.Proofs.Numeral.Written
import IdResolution.Proofs.Resolver.Conflict
import IdResolution.Proofs.Resolver.History
import IdResolution.Proofs.Resolver.LastEntry
import IdResolution.Proofs.Resolver.OverHttp
import IdResolution.Proofs.Resolver.Overlap
import IdResolution.Proofs.Resolver.OwnAnswers
import IdResolution.Proofs.Scan.Outcome
import IdResolution.Proofs.Scan.Schedule
import IdResolution.Proofs.Session.Accounting
import IdResolution.Proofs.Session.Memory
import IdResolution.Proofs.Session.Noninterference
import IdResolution.Proofs.Session.SideBySide
import IdResolution.Proofs.Session.Summary
import IdResolution.Session.Basic
