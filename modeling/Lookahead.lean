import Lookahead.Cursor.Basic
import Lookahead.Failure
import Lookahead.Kind
import Lookahead.Manifest
import Lookahead.Manifest.Description
import Lookahead.NameSource
import Lookahead.Report
import Lookahead.Session
import Lookahead.Text.Numeral
import Lookahead.Text.Printable
import Lookahead.Text.Quoted
import Lookahead.Text.Utf8
import Lookahead.Token
import Lookahead.Proofs.Cursor.EndOfStream
import Lookahead.Proofs.Cursor.Expectation
import Lookahead.Proofs.Cursor.Mismatch
import Lookahead.Proofs.Cursor.Navigation
import Lookahead.Proofs.Cursor.NextKind
import Lookahead.Proofs.Cursor.Overshoot
import Lookahead.Proofs.Cursor.Remainder
import Lookahead.Proofs.Cursor.Sequence
import Lookahead.Proofs.Cursor.Skipping
import Lookahead.Proofs.Cursor.Stride
import Lookahead.Proofs.Cursor.Tiling
import Lookahead.Proofs.Cursor.Trace
import Lookahead.Proofs.Manifest.Description
import Lookahead.Proofs.Resolver.BareKinds
import Lookahead.Proofs.Resolver.Decimal
import Lookahead.Proofs.Resolver.Distinct
import Lookahead.Proofs.Resolver.Sources
import Lookahead.Proofs.Session.BareKinds
import Lookahead.Proofs.Session.Replay
import Lookahead.Proofs.Text.Quoted
import Lookahead.Proofs.Text.Splitting
import Lookahead.Proofs.Text.Utf8
import Lookahead.Proofs.Token.Repeats
import Lookahead.Proofs.Token.Written
