import PatternSuite.Engine.Canned
import PatternSuite.Engine.Scripted
import PatternSuite.Main
import PatternSuite.Session
import PatternSuite.Proofs.Cleanups
import PatternSuite.Proofs.ScopeLocks
import PatternSuite.Proofs.Releases
import PatternSuite.Proofs.NameTables
import PatternSuite.Proofs.Optimization
import PatternSuite.Proofs.GroupNames
import PatternSuite.Proofs.LineReports
import PatternSuite.Proofs.Loads
import PatternSuite.Proofs.Compilations
import PatternSuite.Proofs.ReportLines
import PatternSuite.Proofs.Folders
import PatternSuite.Proofs.Commands
import PatternSuite.Proofs.Turns
import PatternSuite.Proofs.Questions
import PatternSuite.Proofs.CaptureBuffers
import PatternSuite.Proofs.PatternLists
import PatternSuite.Proofs.Lasting
import PatternSuite.Proofs.BufferSizes
import PatternSuite.Proofs.NativeMatchers
import PatternSuite.Proofs.RawTables
import PatternSuite.Proofs.NameViews
import PatternSuite.Proofs.BatchPasses
import PatternSuite.Proofs.Endings
import PatternSuite.Proofs.CompileErrors
import PatternSuite.Proofs.CaptureFields
import PatternSuite.Proofs.Directives
