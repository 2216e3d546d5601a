import BackupConsole.Main
import BackupConsole.Proofs.AgentListing
import BackupConsole.Proofs.BackupChecks
import BackupConsole.Proofs.Encryption
import BackupConsole.Proofs.HintSource
import BackupConsole.Proofs.Interruption
import BackupConsole.Proofs.ReadingBack
import BackupConsole.Proofs.Runs
import BackupConsole.Proofs.WrittenLines
import BackupConsole.Proofs.HomePaths
import BackupConsole.Proofs.Trees
import BackupConsole.Proofs.RecordedFile
import BackupConsole.Proofs.ListedLines
import BackupConsole.Proofs.DayNumbers
import BackupConsole.Proofs.WrittenTimes
import BackupConsole.Proofs.UnknownKeys
import BackupConsole.Proofs.UnknownFields
import BackupConsole.Proofs.WellFormed
import BackupConsole.Proofs.TimeOrder
import BackupConsole.Proofs.GlobalOptions
import BackupConsole.Proofs.ErrorTexts
