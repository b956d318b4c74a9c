import RecorderStubs.Main
import RecorderStubs.Proofs.Frame
import RecorderStubs.Proofs.Lines
import RecorderStubs.Proofs.Order
import RecorderStubs.Proofs.Replay
import RecorderStubs.Signature.Match
import RecorderStubs.Proofs.Shortcut
import RecorderStubs.Proofs.Preview
import RecorderStubs.Proofs.Repetition
import RecorderStubs.Proofs.Breakdown
import RecorderStubs.Proofs.LiveSlot
import RecorderStubs.Proofs.Fields
import RecorderStubs.Proofs.Reconversion
import RecorderStubs.Proofs.Cursor
import RecorderStubs.Proofs.Positions
import RecorderStubs.Proofs.Literals
import RecorderStubs.Proofs.Buffering
import RecorderStubs.Proofs.Unclosed
import RecorderStubs.Proofs.LostSave
import RecorderStubs.Proofs.Seam
import RecorderStubs.Proofs.Alignment
import RecorderStubs.Proofs.Patch
import RecorderStubs.Proofs.Resolution
