import Questline.Cap
import Questline.Command.Arguments
import Questline.Command.Authoring
import Questline.Command.Disk
import Questline.Command.Game
import Questline.Command.Run
import Questline.Composition
import Questline.Config
import Questline.Config.Stored
import Questline.Content.Authored
import Questline.Content.Build
import Questline.Content.Library
import Questline.Content.Load
import Questline.Content.Merge
import Questline.Content.Payload
import Questline.Content.Place
import Questline.Content.Record
import Questline.Content.Validation
import Questline.Coverage
import Questline.Draft
import Questline.Draws
import Questline.Execution
import Questline.Fault
import Questline.Files.Document
import Questline.Files.Path
import Questline.Files.Tree
import Questline.Json.Alike
import Questline.Json.Basic
import Questline.Json.Binary64
import Questline.Json.Levels
import Questline.Json.PairTable
import Questline.Json.Reader
import Questline.Json.Writer
import Questline.Lint.Check
import Questline.Lint.Finding
import Questline.Main
import Questline.Matching
import Questline.Patching
import Questline.Play.Conversation
import Questline.Play.Screen
import Questline.Player
import Questline.Proofs.Attempt
import Questline.Proofs.Config.NormalForm
import Questline.Proofs.Config.Numbers
import Questline.Proofs.Config.Ranges
import Questline.Proofs.Config.Stored
import Questline.Proofs.Content.Addresses
import Questline.Proofs.Content.Building
import Questline.Proofs.Content.Checks
import Questline.Proofs.Content.Consolidation
import Questline.Proofs.Content.Gathering
import Questline.Proofs.Content.Indexes
import Questline.Proofs.Content.Mergeability
import Questline.Proofs.Content.Naming
import Questline.Proofs.Content.PatchSteps
import Questline.Proofs.Content.Placing
import Questline.Proofs.Content.Reach
import Questline.Proofs.Content.Records
import Questline.Proofs.Content.Soundness
import Questline.Proofs.Content.Sources
import Questline.Proofs.Content.Targets
import Questline.Proofs.Content.Tokens
import Questline.Proofs.Files.Documents
import Questline.Proofs.Files.Folder
import Questline.Proofs.Files.Interruption
import Questline.Proofs.Files.Picture
import Questline.Proofs.Files.Replacement
import Questline.Proofs.Files.Soundness
import Questline.Proofs.Json.Levels
import Questline.Proofs.Json.PairTable
import Questline.Proofs.Json.Quoted
import Questline.Proofs.Lint.Entries
import Questline.Proofs.Lint.Findings
import Questline.Proofs.Lint.Targets
import Questline.Proofs.Lint.Variables
import Questline.Proofs.Lint.Verdict
import Questline.Proofs.Matching.Agreement
import Questline.Proofs.Matching.Coverage
import Questline.Proofs.Matching.Drafts
import Questline.Proofs.Matching.Patching
import Questline.Proofs.Matching.Search
import Questline.Proofs.Matching.Selection
import Questline.Proofs.Play.Ending
import Questline.Proofs.Play.Standing
import Questline.Proofs.Play.WayOn
import Questline.Proofs.Player.Accounts
import Questline.Proofs.Player.Experience
import Questline.Proofs.Player.Holdings
import Questline.Proofs.Player.Likeness
import Questline.Proofs.Player.Normality
import Questline.Proofs.Player.Settling
import Questline.Proofs.Player.Sheet
import Questline.Proofs.Player.Shuffling
import Questline.Proofs.Player.Skills
import Questline.Proofs.Player.Templates
import Questline.Proofs.Save.FlatSaves
import Questline.Proofs.Save.Interruption
import Questline.Proofs.Save.Listing
import Questline.Proofs.Save.Loading
import Questline.Proofs.Save.Migrating
import Questline.Proofs.Save.Reading
import Questline.Proofs.Save.Refinement
import Questline.Proofs.Save.Reloading
import Questline.Proofs.Save.Shelf
import Questline.Proofs.Session.Accounts
import Questline.Proofs.Session.Availability
import Questline.Proofs.Session.Coherence
import Questline.Proofs.Session.Journal
import Questline.Proofs.Session.Keeping
import Questline.Proofs.Session.LevelUp
import Questline.Proofs.Session.Normality
import Questline.Proofs.Session.Phases
import Questline.Proofs.Session.Pursuit
import Questline.Proofs.Session.Remnants
import Questline.Proofs.Session.Resuming
import Questline.Proofs.Session.Success
import Questline.Proofs.Session.TagOrder
import Questline.Proofs.Session.Turns
import Questline.Proofs.Session.Whereabouts
import Questline.Proofs.Simulator.Display
import Questline.Proofs.Simulator.History
import Questline.Proofs.Simulator.Lockstep
import Questline.Proofs.Simulator.Preview
import Questline.Proofs.Simulator.Undoing
import Questline.Proofs.Table
import Questline.Proofs.Tag.Marks
import Questline.Proofs.Tag.Spelling
import Questline.Proofs.Tag.WellFormed
import Questline.Proofs.Template.Rendering
import Questline.Proofs.Text.Blanks
import Questline.Proofs.Text.EditDistance
import Questline.Proofs.Text.Numerals
import Questline.Proofs.Text.Sorting
import Questline.Pursuit
import Questline.Save.Migration
import Questline.Save.Store
import Questline.Search
import Questline.Session
import Questline.Simulator
import Questline.SkillCheck
import Questline.Table
import Questline.Tag
import Questline.Template
import Questline.Text.Case
import Questline.Text.CharClass
import Questline.Text.CharTable
import Questline.Text.CodeTable
import Questline.Text.EditDistance
import Questline.Text.Numeral
import Questline.Text.Quoted
import Questline.Text.Trim
import Questline.Text.Wrap
import Questline.Total
