import Lc3.Main
import Lc3.Proofs.AcceptedMapping
import Lc3.Proofs.CallOrder
import Lc3.Proofs.ConditionFlag
import Lc3.Proofs.ConfigDocument
import Lc3.Proofs.ImageBytes
import Lc3.Proofs.Integrity
import Lc3.Proofs.Interruption
import Lc3.Proofs.LoadFailure
import Lc3.Proofs.LogOptions
import Lc3.Proofs.MemoryHistory
import Lc3.Proofs.Placement
import Lc3.Proofs.Resumption
import Lc3.Proofs.SignExtension
import Lc3.Proofs.Spelling
import Lc3.Proofs.StreamConsole
import Lc3.Proofs.StringOutput
import Lc3.Proofs.StringProgram
