import ShaderBuild.Main
import ShaderBuild.Foreign.Workspace
import ShaderBuild.Proofs.Expansion.Splicing
import ShaderBuild.Proofs.Expansion.ConcreteRun
import ShaderBuild.Proofs.Expansion.Reexpansion
import ShaderBuild.Proofs.Expansion.IncludeSite
import ShaderBuild.Proofs.Expansion.CommentStates
import ShaderBuild.Proofs.Expansion.FirstProblem
import ShaderBuild.Proofs.Condition.Replacement
import ShaderBuild.Proofs.Compilation
import ShaderBuild.Proofs.Expansion.DefineLine
import ShaderBuild.Proofs.Foreign.Ownership
import ShaderBuild.Proofs.Certainty
import ShaderBuild.Proofs.Expansion.Blankness
import ShaderBuild.Proofs.Condition.Spelling
import ShaderBuild.Proofs.Condition.Arithmetic
import ShaderBuild.Proofs.Condition.Evaluation
import ShaderBuild.Proofs.Files.Directories
import ShaderBuild.Proofs.Commands.Agreement
import ShaderBuild.Proofs.Expansion.SkippedLines
import ShaderBuild.Proofs.GroupGrammar
import ShaderBuild.Proofs.Expansion.LineTable
import ShaderBuild.Proofs.CodeGaps
import ShaderBuild.Proofs.IncludeLine
import ShaderBuild.Proofs.Expansion.OwnRequests
import ShaderBuild.Proofs.Files.FirstReadable
import ShaderBuild.Proofs.Commands.Preparation
import ShaderBuild.Proofs.Files.ProjectRoot
