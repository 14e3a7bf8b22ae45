import Revenant.Library.Acyclic
import Revenant.Library.Bytes
import Revenant.Library.Call
import Revenant.Library.Chain
import Revenant.Library.Champion
import Revenant.Library.Checks
import Revenant.Library.EventFold
import Revenant.Library.Holds
import Revenant.Library.Json
import Revenant.Library.Ledger
import Revenant.Library.Mirror
import Revenant.Library.Mixing
import Revenant.Library.Pacing
import Revenant.Library.Splits
import Revenant.Library.Text
import Revenant.Library.Turns
import Revenant.Library.Variant
import Revenant.Library.Windows
import Revenant.Library.Words
import Revenant.Actors
import Revenant.Inventory
import Revenant.Modules
import Revenant.Combat
import Revenant.Activities.Acyclicity
import Revenant.Activities.Authored
import Revenant.Activities.Authoring
import Revenant.Activities.Completion
import Revenant.Activities.Coolant
import Revenant.Activities.Firing
import Revenant.Activities.Meridian
import Revenant.Activities.Regression
import Revenant.Activities.Script
import Revenant.Ai.Bulwark
import Revenant.Ai.Controller
import Revenant.Ai.CrossedGuard
import Revenant.Ai.CrossedTimer
import Revenant.Ai.Elite
import Revenant.Ai.Lancer
import Revenant.Ai.Prism
import Revenant.Ai.PrismHistory
import Revenant.Ai.Sentinel
import Revenant.Ai.Support
import Revenant.Ai.SupportChoice
import Revenant.Combat.Analysis
import Revenant.Combat.Cooldown
import Revenant.Modules.Acquisition
import Revenant.Modules.Builds
import Revenant.Modules.Ledger
import Revenant.Modules.State
import Revenant.Campaign.Chapters
import Revenant.Campaign.Policy
import Revenant.Campaign.Progress
import Revenant.Campaign.State
import Revenant.Campaign.Story
import Revenant.Challenges.Actions
import Revenant.Challenges.Catalog
import Revenant.Challenges.Completions
import Revenant.Challenges.Gauntlet
import Revenant.Challenges.GauntletHistory
import Revenant.Challenges.History
import Revenant.Challenges.Mastery
import Revenant.Challenges.MasteryArchive
import Revenant.Challenges.Objectives
import Revenant.Challenges.Recovery
import Revenant.Challenges.Signal
import Revenant.Challenges.State
import Revenant.Challenges.Survival
import Revenant.Challenges.SurvivalHistory
import Revenant.Challenges.Transition
import Revenant.Challenges.Wellformed
import Revenant.Operations.Catalog
import Revenant.Operations.Fairness
import Revenant.Operations.History
import Revenant.Operations.State
import Revenant.Cooperation.Accepted
import Revenant.Cooperation.Invariant
import Revenant.Cooperation.State
import Revenant.Cooperation.Steps
import Revenant.Cooperation.Timing
import Revenant.Protocol.Challenges
import Revenant.Protocol.Framing
import Revenant.Protocol.World
import Revenant.Client.ChallengeMastery
import Revenant.Client.ChallengeState
import Revenant.Client.FramedTransport
import Revenant.Client.MessagePack
import Revenant.Client.MessagePackRoundTrip
import Revenant.Client.MessagePackSafety
import Revenant.Client.World
import Revenant.Security.IdentitySession
import Revenant.Security.LabSafety
import Revenant.Security.SessionSafety
import Revenant.Replay.Acquisition
import Revenant.Replay.Bulwark
import Revenant.Replay.Campaign
import Revenant.Replay.CampaignAuthority
import Revenant.Replay.CampaignSafety
import Revenant.Replay.ChallengeAuthority
import Revenant.Replay.ChallengeEvidence
import Revenant.Replay.ChallengeProofs
import Revenant.Replay.ChallengeSafety
import Revenant.Replay.ChallengeText
import Revenant.Replay.Challenges
import Revenant.Replay.Cooperation
import Revenant.Replay.CooperationRuns
import Revenant.Replay.CooperationSafety
import Revenant.Replay.CooperationSession
import Revenant.Replay.Elite
import Revenant.Replay.Event
import Revenant.Replay.Evidence
import Revenant.Replay.Failure
import Revenant.Replay.FieldActivity
import Revenant.Replay.Lancer
import Revenant.Replay.ModuleState
import Revenant.Replay.Prism
import Revenant.Replay.Route
import Revenant.Replay.RouteSafety
import Revenant.Replay.RouteSession
import Revenant.Replay.RouteTransitions
import Revenant.Replay.Session
import Revenant.Replay.Support
import Revenant.Persistence.Challenges
import Revenant.Persistence.Mastery
import Revenant.Persistence.Cooperation
import Revenant.Persistence.CooperationRewards
import Revenant.Persistence.CooperationRows
import Revenant.Persistence.CooperationStages
import Revenant.Persistence.CooperationStore
import Revenant.Persistence.CooperationTables
import Revenant.Persistence.Modules
import Revenant.Gateway.Bulwark
import Revenant.Gateway.Challenges
import Revenant.Gateway.Elite
import Revenant.Gateway.FieldActivity
import Revenant.Gateway.FrameRate
import Revenant.Gateway.Gauntlet
import Revenant.Gateway.GauntletCombat
import Revenant.Gateway.Lancer
import Revenant.Gateway.Prism
import Revenant.Gateway.Route
import Revenant.Gateway.Session
import Revenant.Gateway.Support
import Revenant.Gateway.Survival
import Revenant.Agreement.Acquisition
import Revenant.Agreement.Background
import Revenant.Agreement.Bulwark
import Revenant.Agreement.ChallengeBoard
import Revenant.Agreement.Duels
import Revenant.Agreement.Elite
import Revenant.Agreement.FieldActivity
import Revenant.Agreement.FieldHistory
import Revenant.Agreement.Gauntlet
import Revenant.Agreement.GauntletCombat
import Revenant.Agreement.GauntletMoves
import Revenant.Agreement.GauntletSession
import Revenant.Agreement.GauntletState
import Revenant.Agreement.GauntletSteps
import Revenant.Agreement.Lancer
import Revenant.Agreement.MasteryArchive
import Revenant.Agreement.Modules
import Revenant.Agreement.Prism
import Revenant.Agreement.Route
import Revenant.Agreement.Support
import Revenant.Agreement.Survival
import Revenant.Agreement.Tape
import Revenant.Agreement.World
