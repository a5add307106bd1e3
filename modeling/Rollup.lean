import Rollup.ArrayLiteral.Grammar
import Rollup.Main
import Rollup.Row.Memory
import Rollup.Session
import Rollup.ArrayLiteral.Texts
import Rollup.Proofs.Extract.Decoding
import Rollup.Proofs.Extract.Streaming
import Rollup.Proofs.Session.Attribution
import Rollup.Proofs.Text.Bytes
import Rollup.Proofs.ArrayLiteral.Grammar
import Rollup.Proofs.ArrayLiteral.Scan
import Rollup.Proofs.ArrayLiteral.RoundTrip
import Rollup.Proofs.Extract.Recovery
import Rollup.Proofs.Session.Privacy
import Rollup.Proofs.Run.Attribution
import Rollup.Proofs.Attribution.History
import Rollup.Json.Reader
import Rollup.Proofs.Attribution.Effect
import Rollup.Proofs.Output.Cut
import Rollup.Json.Basic
import Rollup.Output.Reading
import Rollup.Proofs.Json.Reading
import Rollup.Proofs.Output.Lines
import Rollup.Proofs.Row.Sources
import Rollup.Proofs.Extract.Options
import Rollup.Proofs.Extract.Identifiers
import Rollup.Proofs.ArrayLiteral.Absence
import Rollup.Extract.Parallel
import Rollup.Proofs.Extract.Positions
import Rollup.Proofs.Owners.Chunks
import Rollup.Proofs.Time.Lenience
import Rollup.Proofs.ArrayLiteral.Cuts
import Rollup.Proofs.Extract.Exhaustion
