import ProcessMonitor.Main
import ProcessMonitor.Proc.Written
import ProcessMonitor.Process.Life
import ProcessMonitor.Process.Prepared
import ProcessMonitor.Proofs.CheckedFrame
import ProcessMonitor.Proofs.FilterEntry
import ProcessMonitor.Proofs.FrameControls
import ProcessMonitor.Proofs.HistoryCells
import ProcessMonitor.Proofs.KeyEffects
import ProcessMonitor.Proofs.ProcessRows
import ProcessMonitor.Proofs.RowColumns
import ProcessMonitor.Proofs.RunScreen
import ProcessMonitor.Proofs.TableDirection
import ProcessMonitor.Proofs.TableReturn
import ProcessMonitor.Proofs.Waiting
import ProcessMonitor.Run.Script
import ProcessMonitor.Session.Script
import ProcessMonitor.Proofs.BoxPictures
import ProcessMonitor.Proofs.PromptRows
import ProcessMonitor.Proofs.ColumnScale
import ProcessMonitor.Proofs.CoreCells
import ProcessMonitor.Proofs.PercentMarks
import ProcessMonitor.Proofs.SizeTexts
import ProcessMonitor.Proofs.TableMoves
import ProcessMonitor.Proofs.ProcessListing
import ProcessMonitor.Proofs.KernelCalls
